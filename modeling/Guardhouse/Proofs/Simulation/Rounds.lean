import Guardhouse.Proofs.Guard.Reports
import Guardhouse.Proofs.Simulation.Changes

/-!
# Steps of a simulation as rounds of its guard

A simulation hands its guard over for one round in every step: it turns the cone to where the body
is and to where the target is, evaluates the guard, and then moves the body. Its cone does not
change by being asked, so the guard always sees a scene (`Simulation.sees_scene`), and the guard of
a simulation is reachable at any time (`Simulation.GoesBy.run`). What the rules of a guard say of
a round therefore holds of every step.
-/

namespace Guardhouse
namespace Simulation

variable {w : Simulation} {s : Scenario} {seed : UInt64} {dt : Float32}

/-- The cone turned to where the body is and to where the target is. -/
def look (w : Simulation) (p : ConePerception) : ConePerception :=
  (p.withPose w.guard.context.navigator.position
    (Navigator.forward w.guard.context.navigator)).withTarget w.target.position

/-- The round that the guard is handed over for in the next step. -/
def round (w : Simulation) : Guard.Round ConePerception DirectNavigator Announcer Trace :=
  ⟨w.guard.mapPerception w.look, w.frame⟩

/-- What the guard sees in the next step. -/
def scene (w : Simulation) : Scene :=
  ⟨w.round.guard.context.perception.seesTarget, w.target.position⟩

theorem sees_scene (w : Simulation) : w.round.Sees w.scene := Guard.sees_of_still rfl rfl

theorem guard_step (w : Simulation) :
    w.step.simulation.guard = w.round.after.mapNavigator (·.step w.frame.dt) := rfl

/-- A simulation begins with a new guard, and a body that stands where the scenario puts it. -/
theorem start_eq_ok : start s seed dt = .ok w ↔
    ∃ guard, Guard.create s.guard s.route { cone := ⟨s.guard.viewDistance, s.guard.viewAngle⟩ }
        (.start s.guardStart s.guardSpeed s.guard.waypointReachDistance) {} = .ok guard ∧
      w = { guard := (guard.withAgent agent).withTrace {}
            target := .start s.target
            frame := ⟨0, dt, seed⟩ } := by
  unfold start
  constructor
  · intro h
    cases hguard : Guard.create (T := Trace) s.guard s.route
        { cone := ⟨s.guard.viewDistance, s.guard.viewAngle⟩ : ConePerception }
        (DirectNavigator.start s.guardStart s.guardSpeed s.guard.waypointReachDistance)
        ({} : Announcer) with
    | error e =>
      simp only [hguard] at h
      cases h
    | ok guard =>
      simp only [hguard] at h
      cases h
      exact ⟨guard, rfl, rfl⟩
  · rintro ⟨guard, hguard, rfl⟩
    simp only [hguard]
    rfl

/-! ### The invariant -/

/-- A host can have the guard of this simulation. -/
def Reachable (w : Simulation) : Prop := Guard.Reachable Guard.Steady w.guard

theorem reachable_of_start (hw : start s seed dt = .ok w) : w.Reachable := by
  obtain ⟨guard, hguard, rfl⟩ := start_eq_ok.1 hw
  exact .withTrace _ (.withAgent _ (.create hguard))

theorem Reachable.round (h : w.Reachable) : Guard.Reachable Guard.Steady w.round.guard :=
  Guard.Reachable.mapPerception w.look h

theorem Reachable.step (h : w.Reachable) : w.step.simulation.Reachable := by
  have hafter : Guard.Reachable Guard.Steady w.round.after :=
    h.round.evaluate ⟨w.scene, w.sees_scene⟩
  rw [Reachable, guard_step]
  exact hafter.mapNavigator _

theorem run_succ (w : Simulation) (n : Nat) : w.run (n + 1) = (w.run n).step.simulation :=
  w.run_add n 1

/-- What every step keeps holds after any number of frames. -/
theorem run_induction {p : Simulation → Prop} (hstep : ∀ w, p w → p w.step.simulation) (h : p w)
    (n : Nat) : p (w.run n) := by
  induction n with
  | zero => exact h
  | succ n ih =>
    rw [run_succ]
    exact hstep _ ih

/-- Every step follows one of the rules. -/
theorem Reachable.exists_does (h : w.Reachable) :
    ∃ e, w.round.memory.Ruled w.guard.context.agent w.guard.context.config w.guard.context.route
        w.frame w.guard.context.navigator w.scene e ∧
      (w.round.guard.context.begin w.frame).Does w.round.after.context e :=
  Guard.Round.exists_does h.round w.sees_scene

/-! ### What a scenario settles for good -/

theorem Scenario.check_eq_ok : s.check = .ok () ↔
    s.guard.check = .ok () ∧ (s.guardSpeed.isFinite = true ∧ 0 < s.guardSpeed) ∧
      (s.target.speed.isFinite = true ∧ 0 ≤ s.target.speed) := by
  have hguard : s.guardSpeed.isFinite = true ∧ 0 < s.guardSpeed ↔
      (s.guardSpeed.isFinite && decide (0 < s.guardSpeed)) = true := by
    rw [Bool.and_eq_true, decide_eq_true_eq]
  have htarget : s.target.speed.isFinite = true ∧ 0 ≤ s.target.speed ↔
      (s.target.speed.isFinite && decide (0 ≤ s.target.speed)) = true := by
    rw [Bool.and_eq_true, decide_eq_true_eq]
  rw [hguard, htarget]
  unfold check
  rcases s.guard.check with e | ⟨⟩
  · exact ⟨fun h => (nomatch h), fun h => (nomatch h.1)⟩
  · cases s.guardSpeed.isFinite && decide (0 < s.guardSpeed) <;>
      cases s.target.speed.isFinite && decide (0 ≤ s.target.speed) <;> decide +revert

/-- No order changes where the body is, how fast it is by itself, or what is near enough to it. -/
theorem follow_direct (orders : List Guard.Order) (body : DirectNavigator) :
    (Guard.follow orders body).position = body.position ∧
      (Guard.follow orders body).baseSpeed = body.baseSpeed ∧
      (Guard.follow orders body).arrivalDistance = body.arrivalDistance := by
  induction orders generalizing body with
  | nil => exact ⟨rfl, rfl, rfl⟩
  | cons order orders ih =>
    obtain ⟨hposition, hspeed, harrival⟩ := ih (order.obey body)
    refine ⟨hposition.trans ?_, hspeed.trans ?_, harrival.trans ?_⟩
    all_goals cases order <;> rfl

theorem step_direct (body : DirectNavigator) (dt : Float32) :
    (body.step dt).destination = body.destination ∧
      (body.step dt).baseSpeed = body.baseSpeed ∧
      (body.step dt).speedMultiplier = body.speedMultiplier ∧
      (body.step dt).arrivalDistance = body.arrivalDistance := by
  unfold DirectNavigator.step
  split
  · exact ⟨rfl, rfl, rfl, rfl⟩
  · split <;> exact ⟨rfl, rfl, rfl, rfl⟩

/-- The simulation goes by a scenario: its guard is tuned, routed and equipped by it, and its target
follows its script. -/
structure GoesBy (s : Scenario) (w : Simulation) : Prop where
  reachable : w.Reachable
  config : w.guard.context.config = s.guard
  route : w.guard.context.route = s.route
  baseSpeed : w.guard.context.navigator.baseSpeed = atLeastZero s.guardSpeed
  arrivalDistance :
    w.guard.context.navigator.arrivalDistance = atLeastZero s.guard.waypointReachDistance
  script : w.target.script = s.target
  cone : w.guard.context.perception.cone = ⟨s.guard.viewDistance, s.guard.viewAngle⟩

theorem goesBy_start (hw : start s seed dt = .ok w) : w.GoesBy s := by
  have hreachable := reachable_of_start hw
  obtain ⟨guard, hguard, rfl⟩ := start_eq_ok.1 hw
  obtain ⟨-, rfl⟩ := Guard.create_eq_ok.1 hguard
  exact ⟨hreachable, rfl, rfl, rfl, rfl, rfl, rfl⟩

/-- A cone is turned to where the body is, and does not change by being asked. -/
theorem Reachable.perception_step (h : w.Reachable) :
    w.step.simulation.guard.context.perception = w.look w.guard.context.perception := by
  obtain ⟨hcontext, -, -⟩ := Guard.evaluate_eq h.round.sound.plan w.frame
  show (w.round.guard.evaluate w.frame).guard.context.perception = _
  rw [hcontext]
  exact Guard.perception_decision_of_still rfl rfl rfl

theorem GoesBy.step (h : w.GoesBy s) : w.step.simulation.GoesBy s := by
  obtain ⟨e, -, hdoes⟩ := h.reachable.exists_does
  have hbody : w.round.after.context.navigator = Guard.follow e.orders w.guard.context.navigator :=
    hdoes.navigator
  obtain ⟨-, hspeed, harrival⟩ := follow_direct e.orders w.guard.context.navigator
  obtain ⟨-, hspeed', -, harrival'⟩ := step_direct w.round.after.context.navigator w.frame.dt
  rw [← hbody] at hspeed harrival
  exact ⟨h.reachable.step, hdoes.config.trans h.config, hdoes.route.trans h.route,
    (hspeed'.trans hspeed).trans h.baseSpeed, (harrival'.trans harrival).trans h.arrivalDistance,
    (Target.script_advance _ _).trans h.script,
    (congrArg ConePerception.cone h.reachable.perception_step).trans h.cone⟩

theorem GoesBy.run (h : w.GoesBy s) (n : Nat) : (w.run n).GoesBy s :=
  run_induction (fun _ => GoesBy.step) h n

/-! ### Steps as seen from outside -/

/-- The first steps of a simulation. -/
def steps (w : Simulation) (n : Nat) : List Step := (List.range n).map fun i => (w.run i).step.step

@[simp] theorem length_steps (w : Simulation) (n : Nat) : (w.steps n).length = n := by
  rw [steps, List.length_map, List.length_range]

theorem steps_succ (w : Simulation) (n : Nat) :
    w.steps (n + 1) = w.steps n ++ [(w.run n).step.step] := by
  rw [steps, List.range_succ, List.map_append]
  rfl

end Simulation
end Guardhouse
