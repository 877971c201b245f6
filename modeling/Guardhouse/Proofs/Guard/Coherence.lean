import Guardhouse.Proofs.Guard.Branch
import Guardhouse.Proofs.Number.Order

/-!
# Coherent memories

What the fields of a memory have to do with each other between two frames, whatever the perception
answers and however often it changes its mind (`Memory.Coherent`). Every branch of the tree keeps
this, also where it fails half-way: a chase that loses its target before it knows where to go has
changed the state and raised the alert, and leaves the rest to the branches after it.

`Memory.Sound` adds what makes the invariant inductive: timers are no less than zero, and without
a last known position the timer of the chase is zero.
-/

namespace Guardhouse
namespace Guard

/-- What holds of a memory between two frames. -/
structure Memory.Coherent (m : Memory) : Prop where
  patrol : m.state = .patrol → m.lastKnownPosition = none ∧ m.chaseTimeRemaining = 0 ∧
    m.searchTimeRemaining = 0 ∧ m.lookRotation = 0
  lost : m.state = .search ∨ m.state = .returnToPatrol → m.lastKnownPosition.isSome = true
  alert : m.alertRaised = true ↔ m.state ≠ .patrol
  settled : m.returnStarted = false

/-- A chase asks for nothing but that it has been reported. -/
theorem Memory.Coherent.of_chase {m : Memory} (hstate : m.state = .chase)
    (halert : m.alertRaised = true) (hsettled : m.returnStarted = false) : m.Coherent := by
  constructor
  case patrol =>
    intro hpatrol
    rw [hstate] at hpatrol
    cases hpatrol
  case lost =>
    intro hlost
    rw [hstate] at hlost
    rcases hlost with hsearch | hreturn
    · cases hsearch
    · cases hreturn
  case alert =>
    rw [hstate]
    exact ⟨fun _ => State.noConfusion, fun _ => halert⟩
  case settled => exact hsettled

/-- A coherent memory whose timers make sense. -/
structure Memory.Sound (m : Memory) : Prop extends m.Coherent where
  idle : m.lastKnownPosition = none → m.chaseTimeRemaining = 0
  chaseTime : 0 ≤ m.chaseTimeRemaining
  searchTime : 0 ≤ m.searchTimeRemaining

theorem Config.zero_le_chasePersistence {config : Config} (h : config.check = .ok ()) :
    0 ≤ config.chasePersistence := by
  have hrule := Config.check_eq_ok.1 h (.chasePersistence, .notNegative) (by decide)
  simp only [Rule.holds, Bool.and_eq_true, decide_eq_true_eq] at hrule
  exact hrule.2

namespace Memory

/-- A guard that has not pursued anything yet. -/
theorem sound_fresh (index : Nat) (clock : Float) (multiplier : Float32) :
    Memory.Sound { patrolIndex := index, clock, speedMultiplier := multiplier } := by
  have hzero : (0 : Float32) ≤ 0 := by decide
  refine ⟨⟨fun _ => ⟨rfl, rfl, rfl, rfl⟩, ?_, ?_, rfl⟩, fun _ => rfl, hzero, hzero⟩
  · rintro (hsearch | hreturn)
    · cases hsearch
    · cases hreturn
  · exact ⟨Bool.noConfusion, fun hstate => absurd rfl hstate⟩

/-- What a chase does to the memory. -/
theorem exists_pursue (config : Config) (dt : Float32) (target sighted : Option Vec3) (m : Memory) :
    ∃ multiplier, (m.pursue config dt target sighted).memory =
      { m.refresh config dt target with
        state := .chase
        speedMultiplier := multiplier
        alertRaised := true } := by
  obtain ⟨multiplier, henter⟩ := exists_enter config .chase (m.refresh config dt target)
  refine ⟨multiplier, ?_⟩
  show { (m.refresh config dt target).enter config .chase with alertRaised := true } = _
  rw [henter]

/-- After its beginning a search changes nothing but its timer and which way the guard looks. -/
theorem exists_seek_beginSearch {N : Type} [Navigator N] (config : Config) (dt side : Float32)
    (body : N) (point : Vec3) (m : Memory) :
    ∃ direction rotation, (m.seek config dt side body point).memory =
      { m.beginSearch config side with
        searchTimeRemaining := atLeastZero ((m.beginSearch config side).searchTimeRemaining - dt)
        lookDirection := direction
        lookRotation := rotation } := by
  unfold seek searchAt
  dsimp only
  split
  · obtain ⟨direction, rotation, hsweep⟩ := exists_sweep config dt (m.beginSearch config side)
    unfold lookAround
    dsimp only
    rw [hsweep]
    exact ⟨_, _, rfl⟩
  · exact ⟨_, _, rfl⟩

/-- What a search does to the memory. -/
theorem exists_seek {N : Type} [Navigator N] (config : Config) (dt side : Float32) (body : N)
    (point : Vec3) (m : Memory) :
    ∃ multiplier time direction rotation, (m.seek config dt side body point).memory =
      { m with
        state := .search
        speedMultiplier := multiplier
        searchTimeRemaining := atLeastZero time
        lookDirection := direction
        lookRotation := rotation } := by
  obtain ⟨direction, rotation, hseek⟩ := exists_seek_beginSearch config dt side body point m
  rw [hseek]
  unfold beginSearch
  split
  · next h => exact ⟨_, _, _, _, by rw [← h]⟩
  · obtain ⟨multiplier, henter⟩ := exists_enter config .search m
    rw [henter]
    exact ⟨_, _, _, _, rfl⟩

/-- What following the route does to the memory. -/
theorem exists_followRoute {N : Type} [Navigator N] (config : Config) (route : Array Vec3)
    (body : N) (m : Memory) :
    ∃ index issued, (m.followRoute config route body).memory =
      { m with patrolIndex := index, patrolDestinationIssued := issued } := by
  unfold followRoute
  split
  · exact ⟨_, _, rfl⟩
  split
  · exact ⟨_, _, rfl⟩
  split
  · exact ⟨_, m.patrolDestinationIssued, rfl⟩
  · exact ⟨_, _, rfl⟩

namespace Sound

variable {m : Memory} {config : Config} {dt : Float32}

theorem passTime (h : m.Sound) (clock : Float) : { m with clock := clock }.Sound :=
  ⟨⟨h.patrol, h.lost, h.alert, h.settled⟩, h.idle, h.chaseTime, h.searchTime⟩

theorem countCaught (h : m.Sound) (reports : UInt64) : { m with caughtReports := reports }.Sound :=
  ⟨⟨h.patrol, h.lost, h.alert, h.settled⟩, h.idle, h.chaseTime, h.searchTime⟩

/-- A chase, also one that does not know where to go. -/
theorem pursue (h : m.Sound) (hconfig : 0 ≤ config.chasePersistence) (hdt : 0 ≤ dt)
    (target sighted : Option Vec3) : (m.pursue config dt target sighted).memory.Sound := by
  obtain ⟨multiplier, hpursue⟩ := exists_pursue config dt target sighted m
  rw [hpursue]
  cases target with
  | some target =>
    refine ⟨.of_chase rfl rfl h.settled, ?_, hconfig, h.searchTime⟩
    intro hknown
    cases hknown
  | none =>
    refine ⟨.of_chase rfl rfl h.settled, ?_, zero_le_atLeastZero _, h.searchTime⟩
    intro hknown
    -- the timer of a guard that knows no position stands at zero, and stays there
    show atLeastZero (m.chaseTimeRemaining - dt) = 0
    rw [h.idle hknown]
    exact atLeastZero_zero_sub hdt

/-- A search that knows where to search. -/
theorem seek {N : Type} [Navigator N] (h : m.Sound) (hstate : m.state ≠ .patrol)
    (hknown : m.lastKnownPosition.isSome = true) (side : Float32) (body : N) (point : Vec3) :
    (m.seek config dt side body point).memory.Sound := by
  obtain ⟨multiplier, time, direction, rotation, hseek⟩ :=
    exists_seek config dt side body point m
  rw [hseek]
  refine ⟨⟨?_, fun _ => hknown, ?_, h.settled⟩, ?_, h.chaseTime, zero_le_atLeastZero _⟩
  · intro hpatrol
    cases hpatrol
  · exact ⟨fun _ => State.noConfusion, fun _ => h.alert.2 hstate⟩
  · intro hnone
    rw [show m.lastKnownPosition = none from hnone] at hknown
    cases hknown

theorem giveUp (h : m.Sound) (hstate : m.state ≠ .patrol)
    (hknown : m.lastKnownPosition.isSome = true) (route : Array Vec3) :
    (m.giveUp config route).memory.Sound := by
  obtain ⟨multiplier, henter⟩ := exists_enter config .returnToPatrol m
  show (m.enter config .returnToPatrol).Sound
  rw [henter]
  refine ⟨⟨?_, fun _ => hknown, ?_, h.settled⟩, h.idle, h.chaseTime, h.searchTime⟩
  · intro hpatrol
    cases hpatrol
  · exact ⟨fun _ => State.noConfusion, fun _ => h.alert.2 hstate⟩

theorem beginPatrol (h : m.Sound) (config : Config) : (m.beginPatrol config).Sound := by
  have hzero : (0 : Float32) ≤ 0 := by decide
  unfold Memory.beginPatrol
  split
  · next hstate =>
    obtain ⟨-, hchase, hsearch, hrotation⟩ := h.patrol hstate
    -- a frame on patrol forgets a position that is not there
    refine ⟨⟨fun _ => ⟨rfl, hchase, hsearch, hrotation⟩, ?_, h.alert, h.settled⟩, fun _ => hchase,
      h.chaseTime, h.searchTime⟩
    rintro (hsearch | hreturn)
    · exact nomatch hstate.symm.trans hsearch
    · exact nomatch hstate.symm.trans hreturn
  · obtain ⟨multiplier, henter⟩ := exists_enter config .patrol m
    rw [henter]
    refine ⟨⟨fun _ => ⟨rfl, rfl, rfl, rfl⟩, ?_, ?_, rfl⟩, fun _ => rfl, hzero, hzero⟩
    · rintro (hsearch | hreturn)
      · cases hsearch
      · cases hreturn
    · exact ⟨Bool.noConfusion, fun hstate => absurd rfl hstate⟩

theorem goOnPatrol {N : Type} [Navigator N] (h : m.Sound) (route : Array Vec3) (body : N) :
    (m.patrol config route body).memory.Sound := by
  have hbegin := h.beginPatrol config
  obtain ⟨index, issued, hfollow⟩ :=
    exists_followRoute config route (follow (m.paceFor config .patrol) body) (m.beginPatrol config)
  show ((m.beginPatrol config).followRoute config route _).memory.Sound
  rw [hfollow]
  exact ⟨⟨hbegin.patrol, hbegin.lost, hbegin.alert, hbegin.settled⟩, hbegin.idle, hbegin.chaseTime,
    hbegin.searchTime⟩

end Sound
end Memory

namespace Context

variable {P N R : Type}

/-- A sound memory, and a configuration that keeps it so. -/
structure Sound (c : Context P N R) : Prop where
  config : 0 ≤ c.config.chasePersistence
  memory : c.memory.Sound

/-! ### Where a search and a return begin -/

/-- A search that goes on knows where to search. -/
theorem Sound.known_of_shouldSearch [Perception P] {c : Context P N R} (h : c.Sound)
    (hs : c.shouldSearch.1 = true) :
    c.memory.state ≠ .patrol ∧ c.memory.lastKnownPosition.isSome = true := by
  rw [shouldSearch_eq] at hs
  split at hs
  · next hran =>
    simp only [ranOut, Bool.and_eq_true, beq_iff_eq] at hran
    obtain ⟨⟨hstate, -⟩, hknown⟩ := hran
    exact ⟨by rw [hstate]; exact State.noConfusion, hknown⟩
  · simp only [searching, Bool.and_eq_true, beq_iff_eq] at hs
    exact ⟨by rw [hs.1]; exact State.noConfusion, h.memory.lost (.inl hs.1)⟩

theorem lost_of_shouldReturn {c : Context P N R} (h : c.shouldReturn = true) :
    c.memory.state = .search ∨ c.memory.state = .returnToPatrol := by
  simp only [shouldReturn, Bool.or_eq_true, Bool.and_eq_true, beq_iff_eq] at h
  exact h.imp_left And.left

variable [Navigator N]

/-- A guard does not reach its route in the frame in which it begins to return. -/
theorem reachedRoute_startReturn (c : Context P N R) : c.startReturn.reachedRoute = false := by
  unfold startReturn
  rw [headForWaypoint_eq]
  rfl

/-! ### Every branch keeps a memory sound -/

namespace Sound

variable [Referee R] {c c' : Context P N R}

theorem of_does {e : Effect} (h : c.Sound) (hd : c.Does c' e) (he : e.memory.Sound) : c'.Sound :=
  ⟨hd.config ▸ h.config, hd.memory ▸ he⟩

theorem returnToRoute (h : c.Sound) : c.returnToRoute.2.Sound := by
  rw [returnToRoute_eq]
  split
  · next hs =>
    have hlost := lost_of_shouldReturn hs
    split
    · next hreached =>
      -- Only a guard that was on its way already can have arrived.
      rw [enterReturn_eq] at hreached ⊢
      split at hreached
      · next hreturn =>
        rw [if_pos hreturn]
        exact h
      · rw [reachedRoute_startReturn] at hreached
        cases hreached
    · refine h.of_does (does_giveUp c h.memory.settled) ?_
      refine h.memory.giveUp ?_ (h.memory.lost hlost) _
      rcases hlost with hstate | hstate <;> rw [hstate] <;> exact State.noConfusion
  · exact h

theorem patrol (h : c.Sound) : c.patrol.2.Sound :=
  h.of_does (does_patrol c) (h.memory.goOnPatrol _ _)

variable [Perception P]

theorem catchTarget (h : c.Sound) : c.catchTarget.2.Sound := by
  have hask := does_askPosition c
  rw [catchTarget_eq]
  split
  · refine h.of_does (hask.trans (does_reportCaught _)) ?_
    rw [hask.memory]
    exact h.memory.countCaught _
  · exact h.of_does hask h.memory

/-- Also if the target is perceived when the chase is considered, and no longer after that. -/
theorem chase (h : c.Sound) : c.chase.2.Sound := by
  have hask := h.of_does (does_perceive c) h.memory
  rw [chase_eq]
  split
  · exact hask.of_does (does_goAfter _)
      (hask.memory.pursue hask.config (Frame.zero_le_dt _) _ _)
  · exact hask

theorem search (h : c.Sound) : c.search.2.Sound := by
  have hask : c.Does c.shouldSearch.2 ⟨c.memory, [], []⟩ := does_shouldSearch c
  have hsound := h.of_does hask h.memory
  rw [search_eq]
  split
  · next hs =>
    obtain ⟨hstate, hknown⟩ := h.known_of_shouldSearch hs
    obtain ⟨point, hpoint⟩ := Option.isSome_iff_exists.1 hknown
    have hmemory : c.shouldSearch.2.memory = c.memory := hask.memory
    rw [← hmemory] at hpoint hstate hknown
    exact hsound.of_does (does_lookFor _ hpoint) (hsound.memory.seek hstate hknown _ _ _)
  · exact hsound

/-- Whatever its perception answers, a guard keeps its memory sound. -/
theorem decision (h : c.Sound) : c.decision.2.Sound := by
  refine Composite.keeps .selector ?_ c h
  simp only [List.forall_mem_cons]
  refine ⟨?_, ?_, ?_, ?_, ?_, fun _ hf => absurd hf List.not_mem_nil⟩
  · exact fun _ => catchTarget
  · exact fun _ => chase
  · exact fun _ => search
  · exact fun _ => returnToRoute
  · exact fun _ => patrol

end Sound
end Context
end Guard
end Guardhouse
