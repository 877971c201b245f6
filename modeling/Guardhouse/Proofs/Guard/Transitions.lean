import Guardhouse.Proofs.Guard.Rounds

/-!
# Transitions between states

A guard moves between its states along the edges of a small graph (`State.successors`), and comes
to a chase only by seeing its target. Without seeing it a pursuit runs its course: from the chase to
the search, to the way back and to the patrol, one stage after the other. So a guard that patrols
after a chase has searched and returned in between (`Guard.transitions`).
-/

namespace Guardhouse
namespace Guard

namespace State

/-- The states that a frame can lead to. -/
def successors : State → List State
  | patrol => [patrol, chase]
  | chase => [chase, search]
  | search => [search, chase, returnToPatrol]
  | returnToPatrol => [returnToPatrol, chase, patrol]

/-- How far a pursuit has run its course. -/
def stage : State → Nat
  | chase => 0
  | search => 1
  | returnToPatrol => 2
  | patrol => 3

/-- What a pursuit still has to go through before the guard patrols. -/
def ahead : State → List State
  | chase => [search, returnToPatrol]
  | search => [returnToPatrol]
  | returnToPatrol => []
  | patrol => []

theorem ahead_of_mem_successors {s t : State} {states : List State} (h : t ∈ s.successors)
    (ht : t.ahead.Sublist states) : s.ahead.Sublist (t :: states) := by
  cases s with
  | patrol => exact List.nil_sublist _
  | returnToPatrol => exact List.nil_sublist _
  | chase =>
    have hedge : t = chase ∨ t = search := by simpa [successors] using h
    rcases hedge with rfl | rfl
    · exact ht.cons _
    · exact ht.cons_cons _
  | search =>
    have hedge : t = search ∨ t = chase ∨ t = returnToPatrol := by simpa [successors] using h
    rcases hedge with rfl | rfl | rfl
    · exact ht.cons _
    · -- a chase that begins again has all of it ahead, and the return with it
      exact ((List.sublist_cons_self _ _).trans ht).cons _
    · exact ht.cons_cons _

/-- On every way to the patrol a guard goes through all that is ahead of it. -/
theorem ahead_sublist {s : State} {states : List State}
    (h : (s :: (states ++ [patrol])).IsChain fun s t => t ∈ s.successors) :
    s.ahead.Sublist states := by
  induction states generalizing s with
  | nil =>
    have hedge := (List.isChain_cons_cons.1 h).1
    cases s <;> simp [successors] at hedge <;> exact List.nil_sublist _
  | cons t states ih =>
    obtain ⟨hedge, hrest⟩ := List.isChain_cons_cons.1 h
    exact ahead_of_mem_successors hedge (ih hrest)

end State

/-! ### One step -/

namespace Memory.Ruled

variable {N : Type} [Navigator N] {agent : UInt64} {config : Config} {route : Array Vec3}
  {frame : Frame} {body : N} {v : Scene} {m : Memory} {e : Effect}

theorem mem_successors (h : m.Ruled agent config route frame body v e) :
    e.memory.state ∈ m.state.successors := by
  cases h with
  | caught => cases m.state <;> simp [State.successors]
  | pursued => cases m.state <;> simp [State.successors]
  | sought hfar hunseen hknown hsearch =>
    rcases hsearch with ⟨hstate, -⟩ | ⟨hstate, -⟩ <;> simp [hstate, State.successors]
  | gaveUp hfar hunseen hreturn =>
    rcases hreturn with ⟨hstate, -⟩ | ⟨hstate, -⟩ <;> simp [hstate, State.successors]
  | patrolled hfar hunseen hpatrol =>
    rcases hpatrol with hstate | ⟨hstate, -⟩ <;> simp [hstate, State.successors]

/-- A chase begins with a sighting, out of reach. -/
theorem sighting_of_chase (h : m.Ruled agent config route frame body v e)
    (hchase : e.memory.state = .chase) (hstate : m.state ≠ .chase) :
    v.sighting.isSome = true ∧ ¬v.InReach config body := by
  cases h with
  | caught => exact absurd hchase hstate
  | pursued hfar hp => exact ⟨hp.resolve_right fun h => hstate h.1, hfar⟩
  | sought => simp at hchase
  | gaveUp => simp at hchase
  | patrolled => simp at hchase

/-- Without a sighting a pursuit does not go back, and leaves out no stage. -/
theorem stage_of_unseen (h : m.Ruled agent config route frame body v e) (hv : v.sighting = none) :
    m.state.stage ≤ e.memory.state.stage ∧ e.memory.state.stage ≤ m.state.stage + 1 := by
  cases h with
  | caught => exact ⟨Nat.le_refl _, Nat.le_succ _⟩
  | pursued hfar hp =>
    have hstate : m.state = .chase := (hp.resolve_left (by simp [hv])).1
    simp [hstate]
  | sought hfar hunseen hknown hsearch =>
    rcases hsearch with ⟨hstate, -⟩ | ⟨hstate, -⟩ <;> simp [hstate, State.stage]
  | gaveUp hfar hunseen hreturn =>
    rcases hreturn with ⟨hstate, -⟩ | ⟨hstate, -⟩ <;> simp [hstate, State.stage]
  | patrolled hfar hunseen hpatrol =>
    rcases hpatrol with hstate | ⟨hstate, -⟩ <;> simp [hstate, State.stage]

end Memory.Ruled

/-! ### Runs -/

variable {P N R T : Type} [Perception P] [Navigator N] [Referee R] [Trace.Sink T]
  {rounds : List (Round P N R T)}

theorem Round.state_mem_successors {r : Round P N R T} {v : Scene} (h : Reachable Steady r.guard)
    (hv : r.Sees v) : r.state ∈ r.guard.state.successors := by
  obtain ⟨e, hruled, -, hstate, -⟩ := exists_ruled h hv
  rw [hstate]
  exact hruled.mem_successors

/-- The states that a run reports follow the graph. -/
theorem IsRun.isChain_states (h : IsRun rounds) :
    (rounds.map Round.state).IsChain fun s t => t ∈ s.successors := by
  induction rounds with
  | nil => exact .nil
  | cons r rounds ih =>
    cases rounds with
    | nil => exact .singleton _
    | cons r' rounds =>
      obtain ⟨v, hv⟩ := h.tail.steady r' (.head _)
      have hedge : r'.state ∈ r'.guard.memory.state.successors :=
        Round.state_mem_successors h.tail.head hv
      rw [h.next.memory] at hedge
      exact List.isChain_cons_cons.2 ⟨hedge, ih h.tail⟩

/-- In a run in which no answer changes within a frame, a guard moves along the edges of the graph
in every round. It begins a chase only in a round in which it sees its target out of reach; in a
round in which it does not see it, the pursuit stays at its stage or goes on to the next one. From a
round that reports a chase to a later one that reports a patrol, a search and a return are reported,
in that order. -/
theorem transitions (h : IsRun rounds) :
    (∀ r ∈ rounds, r.state ∈ r.guard.state.successors ∧ ∀ v, r.Sees v →
      (r.state = .chase → r.guard.state ≠ .chase → v.sighting.isSome = true ∧ ¬r.InReach v) ∧
        (v.sighting = none →
          r.guard.state.stage ≤ r.state.stage ∧ r.state.stage ≤ r.guard.state.stage + 1)) ∧
      ∀ before first between last later,
        rounds = before ++ first :: (between ++ last :: later) →
        first.state = .chase → last.state = .patrol →
        [State.search, .returnToPatrol].Sublist (between.map Round.state) := by
  constructor
  · intro r hr
    have hreachable := h.reachable_of_mem r hr
    constructor
    · obtain ⟨v, hv⟩ := h.steady r hr
      exact Round.state_mem_successors hreachable hv
    · intro v hv
      obtain ⟨e, hruled, -, hstate, -⟩ := Round.exists_ruled hreachable hv
      rw [hstate]
      exact ⟨hruled.sighting_of_chase, hruled.stage_of_unseen⟩
  · rintro before first between last later rfl hfirst hlast
    have hchain := h.isChain_states
    rw [List.map_append, List.map_cons, List.map_append, List.map_cons, hfirst, hlast] at hchain
    have hpursuit := hchain.right_of_append
    rw [List.append_cons, ← List.cons_append] at hpursuit
    -- what comes after the last round does not matter
    exact State.ahead_sublist (s := .chase) hpursuit.left_of_append

/-- A guard without patience, whose target is gone once it was seen. -/
theorem transitions_impatient :
    ∃ g : Guard Scene FixedNavigator Tallies Trace,
      create { chasePersistence := 0, searchDuration := 0 } #[] ⟨false, none⟩ ⟨⟨0, 0, 9⟩, none⟩ {} =
        .ok g ∧
      ∃ first between last,
        g.play ((⟨true, some .zero⟩, ⟨1, 0.5, 7⟩) ::
          List.replicate 3 (⟨false, none⟩, ⟨2, 0.5, 7⟩)) = first :: (between ++ [last]) ∧
        first.state = .chase ∧ last.state = .patrol ∧
        [State.search, .returnToPatrol].Sublist (between.map Round.state) := by
  obtain ⟨g, hg⟩ : ∃ g : Guard Scene FixedNavigator Tallies Trace,
      create { chasePersistence := 0, searchDuration := 0 } #[] ⟨false, none⟩ ⟨⟨0, 0, 9⟩, none⟩ {} =
        .ok g :=
    ⟨_, create_eq_ok.2 ⟨by decide +kernel, rfl⟩⟩
  obtain ⟨-, hpursuit⟩ := transitions (isRun_play (.create hg)
    ((⟨true, some .zero⟩, ⟨1, 0.5, 7⟩) :: List.replicate 3 (⟨false, none⟩, ⟨2, 0.5, 7⟩)))
  refine ⟨g, hg, _, [_, _], _, rfl, ?first, ?last, hpursuit [] _ [_, _] _ [] rfl ?first ?last⟩
  all_goals
    obtain ⟨-, rfl⟩ := create_eq_ok.1 hg
    decide +kernel

end Guard
end Guardhouse
