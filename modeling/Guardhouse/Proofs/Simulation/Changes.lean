import Guardhouse.Proofs.Guard.Chronicle
import Guardhouse.Simulation

/-!
# Changes of state in a simulation

Both the summary of a simulation and the trace of its guard count the changes of state. They do so
from different places: the guard patrols before the first frame and traces a change from there,
while the summary compares a frame with the one before it, which the first frame has not. So a
change in the first frame is in the trace and not in the summary, and every other change is in both
(`Simulation.transitions_run`).
-/

namespace Guardhouse

theorem Trace.foldl_emit (events : List Event) (t : Trace) :
    events.foldl emit? (some t) = some ⟨t.events ++ events⟩ := by
  induction events generalizing t with
  | nil => rw [Array.appendList_nil]; rfl
  | cons e events ih =>
    rw [List.foldl_cons, Array.appendList_cons]
    exact ih (t.push e)

namespace Simulation

variable {w : Simulation} {missed : UInt64}

/-- A step adds the events of its frame to the trace. -/
theorem events_step (h : w.guard.trace.isSome = true) :
    w.step.simulation.guard.trace.isSome = true ∧
      w.step.simulation.trace.events.toList = w.trace.events.toList ++
        Guard.events w.frame.tick w.guard.state w.step.step.state
          (w.step.simulation.guard.memory.caughtReports != w.guard.memory.caughtReports) := by
  obtain ⟨t, ht⟩ := Option.isSome_iff_exists.1 h
  have htrace : w.step.simulation.guard.trace =
      (Guard.events w.frame.tick w.guard.state w.step.step.state
        (w.step.simulation.guard.memory.caughtReports != w.guard.memory.caughtReports)).foldl
          Trace.emit? w.guard.trace := rfl
  rw [ht, Trace.foldl_emit] at htrace
  refine ⟨by rw [htrace]; rfl, ?_⟩
  unfold trace
  rw [htrace, ht]
  exact Array.toList_appendList

/-- The changes of state that the trace tells of. -/
def changes (w : Simulation) : List Trace.Event := w.trace.withTag "guard.transition"

/-- A step tells of the change from the state before it to the one that it reports, if they differ.
-/
theorem changes_step (h : w.guard.trace.isSome = true) :
    w.step.simulation.guard.trace.isSome = true ∧
      w.step.simulation.changes =
        w.changes ++ Guard.events w.frame.tick w.guard.state w.step.step.state false := by
  obtain ⟨hsink, hevents⟩ := events_step h
  refine ⟨hsink, ?_⟩
  unfold changes Trace.withTag
  rw [hevents, List.filter_append]
  exact congrArg _ (Guard.changes_events ..)

namespace Summary

variable (s : Summary) (state : Guard.State)

theorem transitions_countTick : (s.countTick state).transitions = s.transitions := by
  cases state <;> rfl

theorem transitions_record_none : (s.record none state).transitions = s.transitions :=
  s.transitions_countTick state

theorem transitions_record_some (tick : UInt64) (previous : Guard.State) :
    (s.record (some previous) state).transitions =
      s.transitions + .ofNat (Guard.events tick previous state false).length := by
  unfold record Guard.events
  by_cases h : previous = state
  · simp [h, transitions_countTick]
  · simp [h, Ne.symm h, transitions_countTick]

end Summary

theorem transitions_step (w : Simulation) :
    w.step.simulation.summary.transitions =
      (w.summary.record w.last w.step.step.state).transitions := rfl

/-- The trace tells of the changes of state that the summary counts, and of those that it has
missed. -/
structure Tallied (missed : UInt64) (w : Simulation) : Prop where
  sink : w.guard.trace.isSome = true
  last : w.last = some w.guard.state
  told : w.summary.transitions + missed = .ofNat w.changes.length

theorem Tallied.step (h : w.Tallied missed) : w.step.simulation.Tallied missed := by
  obtain ⟨hsink, hchanges⟩ := changes_step h.sink
  refine ⟨hsink, rfl, ?_⟩
  rw [transitions_step, h.last, Summary.transitions_record_some _ _ w.frame.tick, hchanges,
    List.length_append, UInt64.ofNat_add, ← h.told]
  ac_rfl

/-- The summary has no frame to compare the first one with. -/
theorem Tallied.first (hsink : w.guard.trace.isSome = true) (hlast : w.last = none)
    (htold : w.summary.transitions = .ofNat w.changes.length) :
    w.step.simulation.Tallied (if w.step.step.state = w.guard.state then 0 else 1) := by
  obtain ⟨hsink', hchanges⟩ := changes_step hsink
  refine ⟨hsink', rfl, ?_⟩
  rw [transitions_step, hlast, Summary.transitions_record_none, htold, hchanges,
    List.length_append, UInt64.ofNat_add]
  unfold Guard.events
  split <;> rfl

theorem Tallied.run (h : w.Tallied missed) (n : Nat) : (w.run n).Tallied missed := by
  induction n generalizing w with
  | zero => exact h
  | succ n ih => exact ih h.step

theorem of_start {s : Scenario} {seed : UInt64} {dt : Float32} (hw : start s seed dt = .ok w) :
    w.guard.trace = some {} ∧ w.last = none ∧ w.summary = {} ∧ w.guard.state = .patrol := by
  unfold start Guard.create at hw
  cases hcheck : s.guard.check with
  | error e =>
    rw [hcheck] at hw
    cases hw
  | ok =>
    rw [hcheck] at hw
    cases hw
    exact ⟨rfl, rfl, rfl, rfl⟩

/-- The summary of a simulation counts the changes of state in the trace of its guard, except for
one in the first frame. -/
theorem transitions_run {s : Scenario} {seed : UInt64} {dt : Float32} {w : Simulation}
    (hw : start s seed dt = .ok w) (n : Nat) :
    (w.run n).summary.transitions + (if 0 < n ∧ w.step.step.state ≠ .patrol then 1 else 0) =
      .ofNat ((w.run n).trace.withTag "guard.transition").length := by
  obtain ⟨hsink, hlast, hsummary, hpatrol⟩ := of_start hw
  have htold : w.summary.transitions = .ofNat w.changes.length := by
    unfold changes trace
    rw [hsummary, hsink]
    rfl
  cases n with
  | zero => exact (UInt64.add_zero _).trans htold
  | succ n =>
    have hfirst := Tallied.first (Option.isSome_of_eq_some hsink) hlast htold
    rw [hpatrol] at hfirst
    show (w.step.simulation.run n).summary.transitions + _ =
      .ofNat (w.step.simulation.run n).changes.length
    simpa [ite_not] using (hfirst.run n).told

/-- A target in front of the guard, in view from the first frame on. -/
theorem transitions_run_in_view :
    ∃ w, start { target.path := #[⟨0, 0, 9⟩] } 0 0.5 = .ok w ∧ w.step.step.state = .chase ∧
      ∀ n, (w.run (n + 1)).summary.transitions + 1 =
        .ofNat ((w.run (n + 1)).trace.withTag "guard.transition").length := by
  obtain ⟨w, hw⟩ : ∃ w, start { target.path := #[⟨0, 0, 9⟩] } 0 0.5 = .ok w := ⟨_, rfl⟩
  have hchase : w.step.step.state = .chase := by
    cases hw
    decide +kernel
  refine ⟨w, hw, hchase, fun n => ?_⟩
  have hn : 0 < n + 1 ∧ w.step.step.state ≠ .patrol := ⟨n.succ_pos, by rw [hchase]; decide⟩
  have htold := transitions_run hw (n + 1)
  rwa [if_pos hn] at htold

/-- The chase that begins in the first frame is in the trace, and the summary has counted nothing.
-/
theorem missed_in_first_frame :
    ∃ w, start { target.path := #[⟨0, 0, 9⟩] } 0 0.5 = .ok w ∧
      (w.run 1).trace.withTag "guard.transition" = [⟨0, "guard.transition", 0, 1⟩] ∧
      (w.run 1).summary.transitions ≠
        .ofNat ((w.run 1).trace.withTag "guard.transition").length :=
  ⟨_, rfl, by decide +kernel, by decide +kernel⟩

end Simulation
end Guardhouse
