import Guardhouse.Proofs.Guard.Reports

/-!
# Records

A guard records a change of its state in its journal where it makes it, in the middle of a frame.
The event in its trace comes from comparing the states before and after the frame. `Context.Tells`
says that a step records the change that it makes, if it makes one, and nothing else. A guard that
sees a scene takes one branch of its tree and so changes its state once at most; what it records in
a frame is what the frame has changed (`Guard.Sound.transitions_evaluate`).
-/

namespace Guardhouse
namespace Journal

/-- The event that stands for a record of a change of state. -/
def Entry.event? : Entry → Option Trace.Event
  | .transition _ tick source target =>
    some { tick, tag := "guard.transition", a := source.code, b := target.code }
  | _ => none

/-- The changes of state that a journal records, as events. -/
def transitions (j : Journal) : List Trace.Event := j.toList.filterMap Entry.event?

@[simp] theorem transitions_append (j k : Journal) :
    transitions (j ++ k) = transitions j ++ transitions k := by
  unfold transitions
  rw [Array.toList_append, List.filterMap_append]

@[simp] theorem transitions_push (j : Journal) (e : Entry) :
    transitions (j.push e) = transitions j ++ e.event?.toList := by
  unfold transitions
  rw [Array.toList_push, List.filterMap_append]
  cases h : e.event? <;> simp [h]

end Journal

/-- A runner records no change of state. -/
theorem Runner.transitions_tick {C σ S : Type} [Trace.Sink S] (r : Runner C σ S) (c : C) :
    (r.tick c).journal.transitions = [] := by
  unfold tick
  split
  · rfl
  · dsimp only
    split <;> rfl

namespace Guard
namespace Context

variable {P N R : Type}

/-- A step that records no change of state, and makes none. -/
structure Quiet (c c' : Context P N R) : Prop where
  state : c'.memory.state = c.memory.state
  frame : c'.frame = c.frame
  transitions : c'.journal.transitions = c.journal.transitions

/-- A step that records the change of state that it makes, if it makes one. -/
structure Tells (c c' : Context P N R) : Prop where
  frame : c'.frame = c.frame
  transitions : c'.journal.transitions =
    c.journal.transitions ++ events c.frame.tick c.memory.state c'.memory.state false

variable {c c' c'' : Context P N R}

theorem Quiet.trans (h : c.Quiet c') (h' : c'.Quiet c'') : c.Quiet c'' :=
  ⟨h'.state.trans h.state, h'.frame.trans h.frame, h'.transitions.trans h.transitions⟩

theorem Quiet.tells (h : c.Quiet c') : c.Tells c' := by
  refine ⟨h.frame, ?_⟩
  rw [h.transitions, h.state]
  simp [events]

theorem Quiet.trans_tells (h : c.Quiet c') (h' : c'.Tells c'') : c.Tells c'' := by
  refine ⟨h'.frame.trans h.frame, ?_⟩
  rw [h'.transitions, h.transitions, h.frame, h.state]

theorem Tells.trans_quiet (h : c.Tells c') (h' : c'.Quiet c'') : c.Tells c'' := by
  refine ⟨h'.frame.trans h.frame, ?_⟩
  rw [h'.transitions, h.transitions, h'.state]

/-! ### Actions that change no state -/

theorem quiet_reportCaught [Referee R] (c : Context P N (Minuted R)) :
    c.Quiet c.reportCaught.2 := by
  refine ⟨rfl, rfl, ?_⟩
  show Journal.transitions (c.journal.push _ ++ #[]) = _
  simp [Journal.Entry.event?]

theorem quiet_raiseAlert [Referee R] (c : Context P N (Minuted R)) : c.Quiet c.raiseAlert.2 := by
  unfold raiseAlert
  split
  · exact ⟨rfl, rfl, rfl⟩
  · refine ⟨rfl, rfl, ?_⟩
    show Journal.transitions (c.journal.push _ ++ #[]) = _
    simp [Journal.Entry.event?]

theorem quiet_countDownSearch (c : Context P N R) : c.Quiet c.countDownSearch.2 := ⟨rfl, rfl, rfl⟩

theorem quiet_travelToRoute (c : Context P N R) : c.Quiet c.travelToRoute.2 := ⟨rfl, rfl, rfl⟩

section Asking

variable [Perception P]

theorem quiet_perceive (c : Context P N R) : c.Quiet c.perceive.2 := by
  unfold perceive
  dsimp only
  split <;> exact ⟨rfl, rfl, rfl⟩

theorem quiet_refreshChase (c : Context P N R) : c.Quiet c.refreshChase := by
  rw [refreshChase_eq]
  refine (quiet_perceive c).trans ⟨?_, rfl, rfl⟩
  unfold Memory.refresh
  split <;> rfl

theorem quiet_moveToTarget [Navigator N] (c : Context P N R) : c.Quiet c.moveToTarget.2 := by
  rw [moveToTarget_eq]
  refine (quiet_perceive c).trans ?_
  unfold headForSome
  split <;> exact ⟨rfl, rfl, rfl⟩

end Asking

section Acting

variable [Navigator N]

theorem quiet_searchLastKnownPosition (c : Context P N R) :
    c.Quiet c.searchLastKnownPosition.2 := by
  rw [searchLastKnownPosition_eq]
  unfold searchAt
  split
  · exact ⟨rfl, rfl, rfl⟩
  split
  · rw [lookAround_eq]
    obtain ⟨direction, rotation, hsweep⟩ := c.memory.exists_sweep c.config c.dt
    refine ⟨?_, rfl, rfl⟩
    show (c.memory.sweep c.config c.dt).state = _
    rw [hsweep]
  · exact ⟨rfl, rfl, rfl⟩

theorem quiet_followRoute (c : Context P N R) : c.Quiet c.followRoute.2 := by
  unfold followRoute
  simp only [headForWaypoint_eq]
  split
  · exact ⟨rfl, rfl, rfl⟩
  split
  · exact ⟨rfl, rfl, rfl⟩
  split
  · refine ⟨rfl, rfl, ?_⟩
    show Journal.transitions (c.journal.push _) = _
    simp [Journal.Entry.event?]
  · exact ⟨rfl, rfl, rfl⟩

/-! ### Changes of state -/

theorem tells_switch {next : State} (h : c.memory.state ≠ next) : c.Tells (c.switch next) := by
  refine ⟨rfl, ?_⟩
  show Journal.transitions (c.journal.push (.transition _ c.frame.tick c.memory.state next)) =
    c.journal.transitions ++ events c.frame.tick c.memory.state next false
  simp [Journal.Entry.event?, events, h.symm]

theorem tells_enterChase (c : Context P N R) : c.Tells c.enterChase := by
  rw [enterChase_eq]
  split
  · exact Quiet.tells ⟨rfl, rfl, rfl⟩
  · next h => exact tells_switch h

theorem tells_enterSearch (c : Context P N R) : c.Tells c.enterSearch := by
  rw [enterSearch_eq]
  split
  · exact Quiet.tells ⟨rfl, rfl, rfl⟩
  · next h => exact (tells_switch h).trans_quiet ⟨rfl, rfl, rfl⟩

theorem tells_enterReturn (c : Context P N R) : c.Tells c.enterReturn := by
  rw [enterReturn_eq]
  split
  · exact Quiet.tells ⟨rfl, rfl, rfl⟩
  · next h =>
    unfold startReturn
    rw [headForWaypoint_eq]
    exact (tells_switch h).trans_quiet ⟨rfl, rfl, rfl⟩

theorem tells_enterPatrol (c : Context P N R) : c.Tells c.enterPatrol := by
  rw [enterPatrol_eq]
  split
  · exact Quiet.tells ⟨rfl, rfl, rfl⟩
  · next h => exact (tells_switch h).trans_quiet ⟨rfl, rfl, rfl⟩

/-- A guard that sees a scene, and whose memory is sound, changes its state once at most. -/
theorem tells_decision [Referee R] {c : Context Scene N (Minuted R)} (h : c.Sound) :
    c.Tells c.decision.2 := by
  rw [decision_eq_taken h]
  unfold taken
  split
  · exact (quiet_reportCaught c).tells
  split
  · have hchase : c.Tells c.refreshChase.enterChase :=
      (quiet_refreshChase c).trans_tells (tells_enterChase _)
    exact hchase.trans_quiet ((quiet_moveToTarget _).trans (quiet_raiseAlert _))
  split
  · exact (tells_enterSearch c).trans_quiet
      ((quiet_searchLastKnownPosition _).trans (quiet_countDownSearch _))
  split
  · exact (tells_enterReturn c).trans_quiet (quiet_travelToRoute _)
  · rw [patrol_eq]
    exact (tells_enterPatrol c).trans_quiet (quiet_followRoute _)

end Acting

end Context

/-- What a guard records in a frame is what the frame has changed. -/
theorem Sound.transitions_evaluate {P N R T : Type} [Perception P] [Navigator N] [Referee R]
    [Trace.Sink T] {g : Guard P N (Minuted R) T} {frame : Frame} {v : Scene} (h : g.Sound)
    (hv : g.Sees frame v) :
    (g.evaluate frame).journal.transitions =
      events frame.tick g.state (g.evaluate frame).state false := by
  have hscene : ((g.context.withPerception v).begin frame).Sound :=
    ⟨(h.begin frame).config, (h.begin frame).memory⟩
  have htells := (Context.tells_decision hscene).transitions
  rw [hv.decision_eq] at htells
  obtain ⟨hcontext, hstate, -⟩ := evaluate_eq h.plan frame
  have hjournal : (g.evaluate frame).journal =
      (g.evaluate frame).guard.context.journal ++ (g.runner.tick (g.context.begin frame)).journal :=
    rfl
  rw [hjournal, Journal.transitions_append, Runner.transitions_tick, List.append_nil, hcontext,
    hstate]
  exact htells

end Guard
end Guardhouse
