import Guardhouse.Proofs.Guard.Rounds

/-!
# The timeline of a lost target

A guard that has lost its target goes through four phases: it chases on, then searches, then returns
and at last patrols. `Phase.next` is the clock that takes it through them, with one timer at a time.
It is told nothing but how much time a round takes and whether the guard is back on its route; what
the guard does in the round does not matter (`Guard.timeline`).
-/

namespace Guardhouse
namespace Guard

/-- A phase of a pursuit without a target, with what is left of its time. -/
inductive Phase where
  | chasing (left : Float32)
  | searching (left : Float32)
  | returning
  | patrolling
  deriving DecidableEq

/-- What the phases depend on in a round. -/
structure Moment where
  dt : Float32
  home : Bool

namespace Phase

def state : Phase → State
  | chasing _ => .chase
  | searching _ => .search
  | returning => .returnToPatrol
  | patrolling => .patrol

def left : Phase → Float32
  | chasing left => left
  | searching left => left
  | returning => 0
  | patrolling => 0

/-- The phase after a moment. The moment in which a timer reaches zero still belongs to its phase;
the one after it begins the next phase and, if that is the search, counts for it. A return takes one
moment at least. -/
def next (config : Config) (moment : Moment) : Phase → Phase
  | chasing left =>
    if 0 < left then chasing (atLeastZero (left - moment.dt))
    else searching (atLeastZero (config.searchDuration - moment.dt))
  | searching left =>
    if 0 < left then searching (atLeastZero (left - moment.dt)) else returning
  | returning => if moment.home then patrolling else returning
  | patrolling => patrolling

/-- The phases after each of some moments. -/
def course (config : Config) (phase : Phase) : List Moment → List Phase
  | [] => []
  | moment :: moments =>
    phase.next config moment :: (phase.next config moment).course config moments

theorem zero_le_left_next (config : Config) (moment : Moment) (phase : Phase) :
    0 ≤ (phase.next config moment).left := by
  have hzero : (0 : Float32) ≤ 0 := by decide
  cases phase with
  | chasing left =>
    simp only [next]
    split <;> exact zero_le_atLeastZero _
  | searching left =>
    simp only [next]
    split
    · exact zero_le_atLeastZero _
    · exact hzero
  | returning =>
    simp only [next]
    split <;> exact hzero
  | patrolling => exact hzero

theorem zero_le_left_course (config : Config) (phase : Phase) (moments : List Moment) :
    ∀ p ∈ phase.course config moments, 0 ≤ p.left := by
  induction moments generalizing phase with
  | nil => exact fun p hp => absurd hp List.not_mem_nil
  | cons moment moments ih =>
    exact List.forall_mem_cons.2 ⟨phase.zero_le_left_next config moment, ih _⟩

end Phase

/-! ### One step -/

namespace Memory

/-- The phase that a guard is in, should it see nothing. -/
def phase (m : Memory) : Phase :=
  match m.state with
  | .chase => .chasing m.chaseTimeRemaining
  | .search => .searching m.searchTimeRemaining
  | .returnToPatrol => .returning
  | .patrol => .patrolling

@[simp] theorem state_phase (m : Memory) : m.phase.state = m.state := by
  unfold phase
  split <;> simp_all [Phase.state]

theorem phase_of_chase {m : Memory} (h : m.state = .chase) :
    m.phase = .chasing m.chaseTimeRemaining := by
  simp only [phase, h]

theorem phase_of_search {m : Memory} (h : m.state = .search) :
    m.phase = .searching m.searchTimeRemaining := by
  simp only [phase, h]

theorem phase_of_returnToPatrol {m : Memory} (h : m.state = .returnToPatrol) :
    m.phase = .returning := by
  simp only [phase, h]

theorem phase_of_patrol {m : Memory} (h : m.state = .patrol) : m.phase = .patrolling := by
  simp only [phase, h]

variable (config : Config) (dt : Float32) (m : Memory)

theorem phase_pursue (target sighted : Option Vec3) :
    (m.pursue config dt target sighted).memory.phase =
      .chasing (m.refresh config dt target).chaseTimeRemaining := by
  obtain ⟨multiplier, hpursue⟩ := exists_pursue config dt target sighted m
  rw [hpursue]
  rfl

theorem phase_seek {N : Type} [Navigator N] (side : Float32) (body : N) (point : Vec3) :
    (m.seek config dt side body point).memory.phase =
      .searching
        (atLeastZero ((if m.state = .search then m.searchTimeRemaining else config.searchDuration)
          - dt)) := by
  have htime : (m.beginSearch config side).searchTimeRemaining =
      if m.state = .search then m.searchTimeRemaining else config.searchDuration := by
    unfold beginSearch
    split <;> rfl
  obtain ⟨direction, rotation, hseek⟩ := exists_seek_beginSearch config dt side body point m
  rw [phase_of_search (state_seek ..), ← htime, hseek]

namespace Ruled

variable {N : Type} [Navigator N] {agent : UInt64} {config : Config} {route : Array Vec3}
  {frame : Frame} {body : N} {v : Scene} {m : Memory} {e : Effect}

/-- A sighting out of reach begins a full chase. -/
theorem phase_of_sighted (h : m.Ruled agent config route frame body v e)
    (hv : v.sighting.isSome = true) (hfar : ¬v.InReach config body) :
    e.memory.phase = .chasing config.chasePersistence := by
  obtain ⟨target, htarget⟩ := Option.isSome_iff_exists.1 hv
  cases h with
  | caught hreach => exact absurd hreach hfar
  | pursued => rw [phase_pursue, htarget, refresh]
  | sought _ hunseen => simp [hunseen] at hv
  | gaveUp _ hunseen => simp [hunseen] at hv
  | patrolled _ hunseen => simp [hunseen] at hv

/-- Without a sighting, out of reach of the target, the phase goes on with the time. -/
theorem phase_of_unseen (h : m.Ruled agent config route frame body v e) (hv : v.sighting = none)
    (hfar : ¬v.InReach config body) :
    e.memory.phase = m.phase.next config ⟨frame.dt, backOnRoute route body⟩ := by
  cases h with
  | caught hreach => exact absurd hreach hfar
  | pursued _ hchase =>
    obtain ⟨hstate, htime⟩ := hchase.resolve_left (by simp [hv])
    rw [phase_pursue, hv, phase_of_chase hstate, Phase.next, if_pos htime]
    rfl
  | sought _ _ hknown hsearch =>
    rw [phase_seek]
    rcases hsearch with ⟨hstate, htime⟩ | ⟨hstate, htime⟩
    · rw [phase_of_chase hstate, Phase.next, if_neg htime, if_neg (by simp [hstate])]
    · rw [phase_of_search hstate, Phase.next, if_pos htime, if_pos hstate]
  | gaveUp _ _ hreturn =>
    rw [phase_of_returnToPatrol (state_giveUp ..)]
    rcases hreturn with ⟨hstate, htime⟩ | ⟨hstate, hhome⟩
    · rw [phase_of_search hstate, Phase.next, if_neg htime]
    · simp [phase_of_returnToPatrol hstate, Phase.next, hhome]
  | patrolled _ _ hpatrol =>
    rw [phase_of_patrol (state_patrol ..)]
    rcases hpatrol with hstate | ⟨hstate, hhome⟩
    · rw [phase_of_patrol hstate, Phase.next]
    · simp [phase_of_returnToPatrol hstate, Phase.next, hhome]

end Ruled
end Memory

/-! ### Runs -/

variable {P N R T : Type} [Perception P] [Navigator N] [Referee R] [Trace.Sink T]

namespace Round

/-- The target is neither perceived nor in reach. -/
def Lost (r : Round P N R T) : Prop := ∃ v, r.Sees v ∧ v.sighting = none ∧ ¬r.InReach v

def moment (r : Round P N R T) : Moment :=
  ⟨r.frame.dt, backOnRoute r.guard.context.route r.guard.context.navigator⟩

theorem Lost.phase_after {r : Round P N R T} (h : r.Lost) (hr : Reachable Steady r.guard) :
    r.after.memory.phase = r.guard.memory.phase.next r.guard.context.config r.moment := by
  obtain ⟨v, hv, hunseen, hfar⟩ := h
  obtain ⟨e, hruled, hmemory, -⟩ := exists_ruled hr hv
  rw [hmemory]
  exact hruled.phase_of_unseen hunseen hfar

end Round

theorem lost_of_mem_play {g : Guard Scene N R T} {film : List (Scene × Frame)}
    (hfilm : ∀ shot ∈ film, shot.1 = ⟨false, none⟩) : ∀ r ∈ g.play film, r.Lost := by
  induction film generalizing g with
  | nil => exact fun r hr => absurd hr List.not_mem_nil
  | cons shot film ih =>
    obtain ⟨v, frame⟩ := shot
    obtain ⟨rfl, hrest⟩ := List.forall_mem_cons.1 hfilm
    refine List.forall_mem_cons.2 ⟨⟨⟨false, none⟩, sees_of_still rfl rfl, rfl, ?_⟩, ih hrest⟩
    rintro ⟨target, htarget, -⟩
    cases htarget

/-- As long as the target is lost, the phases of a guard run their course. -/
theorem IsRun.map_phase {r : Round P N R T} {lost : List (Round P N R T)} (h : IsRun (r :: lost))
    (hlost : ∀ s ∈ lost, s.Lost) :
    lost.map (fun s => s.after.memory.phase) =
      r.after.memory.phase.course r.guard.context.config (lost.map Round.moment) := by
  induction lost generalizing r with
  | nil => rfl
  | cons s lost ih =>
    obtain ⟨hs, hlost⟩ := List.forall_mem_cons.1 hlost
    have hphase := hs.phase_after h.tail.head
    rw [List.map_cons, ih h.tail hlost, hphase, h.next.memory, h.config_eq]
    rfl

/-- A guard that sees its target out of reach chases it. If the target is lost in all rounds that
follow, the states that it reports are those of the phases that begin with a full chase and take
nothing from a round but its time and whether the guard was back on its route when it began. No
timer is ever less than zero, so each is either positive or over. -/
theorem timeline {r : Round P N R T} {lost : List (Round P N R T)} (h : IsRun (r :: lost))
    {v : Scene} (hv : r.Sees v) (hseen : v.sighting.isSome = true) (hfar : ¬r.InReach v)
    (hlost : ∀ s ∈ lost, s.Lost) :
    let config := r.guard.context.config
    let course := (Phase.chasing config.chasePersistence).course config (lost.map Round.moment)
    r.state = .chase ∧ lost.map Round.state = course.map Phase.state ∧
      0 ≤ config.chasePersistence ∧ ∀ phase ∈ course, 0 ≤ phase.left := by
  obtain ⟨e, hruled, hmemory, -⟩ := Round.exists_ruled h.head hv
  have hphase : r.after.memory.phase = .chasing r.guard.context.config.chasePersistence := by
    rw [hmemory]
    exact hruled.phase_of_sighted hseen hfar
  refine ⟨?_, ?_, h.head.sound.context.config, Phase.zero_le_left_course _ _ _⟩
  · show r.after.memory.state = .chase
    rw [← Memory.state_phase, hphase]
    rfl
  · rw [← hphase, ← h.map_phase hlost, List.map_map]
    exact List.map_congr_left fun s _ => (Memory.state_phase s.after.memory).symm

/-- A target that is gone once it was seen, with a second for the chase and a second for the
search, in rounds of half a second. -/
theorem timeline_seconds :
    ∃ g : Guard Scene FixedNavigator Tallies Trace,
      create { chasePersistence := 1, searchDuration := 1 } #[] ⟨false, none⟩ ⟨⟨0, 0, 9⟩, none⟩ {} =
        .ok g ∧
      ∃ r lost,
        g.play ((⟨true, some .zero⟩, ⟨1, 0.5, 7⟩) ::
          List.replicate 7 (⟨false, none⟩, ⟨2, 0.5, 7⟩)) = r :: lost ∧
        r.state = .chase ∧
        lost.map Round.state =
          [.chase, .chase, .search, .search, .returnToPatrol, .patrol, .patrol] := by
  obtain ⟨g, hg⟩ : ∃ g : Guard Scene FixedNavigator Tallies Trace,
      create { chasePersistence := 1, searchDuration := 1 } #[] ⟨false, none⟩ ⟨⟨0, 0, 9⟩, none⟩ {} =
        .ok g :=
    ⟨_, create_eq_ok.2 ⟨by decide +kernel, rfl⟩⟩
  let first : Round Scene FixedNavigator Tallies Trace :=
    ⟨g.mapPerception fun _ => ⟨true, some .zero⟩, ⟨1, 0.5, 7⟩⟩
  have hrun : IsRun (first :: first.after.play (List.replicate 7 (⟨false, none⟩, ⟨2, 0.5, 7⟩))) :=
    isRun_play (.create hg) ((_, _) :: _)
  have hfirst : first.Sees ⟨true, some .zero⟩ := sees_of_still rfl rfl
  have hlost : ∀ s ∈ first.after.play (List.replicate 7 (⟨false, none⟩, ⟨2, 0.5, 7⟩)), s.Lost :=
    lost_of_mem_play fun shot hshot => congrArg Prod.fst (List.eq_of_mem_replicate hshot)
  have hfar : ¬first.InReach ⟨true, some .zero⟩ := by
    obtain ⟨-, rfl⟩ := create_eq_ok.1 hg
    rintro ⟨target, ⟨⟩, hreach⟩
    exact absurd hreach (by decide +kernel)
  obtain ⟨hchase, hstates, -⟩ := timeline hrun hfirst rfl hfar hlost
  refine ⟨g, hg, first, _, rfl, hchase, hstates.trans ?_⟩
  obtain ⟨-, rfl⟩ := create_eq_ok.1 hg
  decide +kernel

end Guard
end Guardhouse
