import Guardhouse.Proofs.Simulation.Accounts
import Guardhouse.Proofs.Vec3

/-!
# Arriving at the target

A chasing guard stands still once it is within the arrival distance of where it is heading, and it
catches its target within the catch distance. Both are free, so a guard may come to rest at its
target without catching it (`Simulation.arrived_without_catching`). It does not if the arrival
distance is the smaller one (`Simulation.arrived_means_caught`).
-/

namespace Guardhouse

theorem Guard.Config.zero_lt_catchDistance {config : Guard.Config} (h : config.check = .ok ()) :
    0 < config.catchDistance := by
  have hrule := Config.check_eq_ok.1 h (.catchDistance, .positive) (by decide)
  simp only [Config.Rule.holds, Bool.and_eq_true, decide_eq_true_eq] at hrule
  exact hrule.2

theorem atLeastZero_lt {x y : Float32} (hxy : x < y) (hy : 0 < y) : atLeastZero x < y := by
  unfold atLeastZero
  split
  · exact hxy
  · exact hy

namespace Simulation

variable {w : Simulation} {s : Scenario} {seed : UInt64} {dt : Float32}

/-- A guard with its target in catch range reports it caught, and stays in its state. -/
theorem Reachable.caught (h : w.Reachable)
    (hreach : w.scene.InReach w.guard.context.config w.guard.context.navigator) :
    w.step.step.state = w.guard.state ∧
      w.step.simulation.guard.memory.caughtReports = w.guard.memory.caughtReports + 1 ∧
      w.step.simulation.tallies = { w.tallies with caught := w.tallies.caught + 1 } := by
  obtain ⟨e, hruled, hstate, hmemory, htallies⟩ := h.exists_ruled
  rw [hmemory, hstate, htallies]
  cases hruled with
  | caught => exact ⟨rfl, rfl, rfl⟩
  | pursued hfar => exact absurd hreach hfar
  | sought hfar => exact absurd hreach hfar
  | gaveUp hfar => exact absurd hreach hfar
  | patrolled hfar => exact absurd hreach hfar

/-- A body that has arrived at the target is in catch range, if it has to come nearer than that to
arrive. -/
theorem GoesBy.inReach (h : w.GoesBy s) (hs : s.guard.check = .ok ())
    (hnear : s.guard.waypointReachDistance < s.guard.catchDistance) {destination target : Vec3}
    (hdestination : w.guard.context.navigator.destination = some destination)
    (htarget : w.target.position = some target) (hsame : (destination == target) = true)
    (harrived : w.guard.context.navigator.hasReachedDestination = true) :
    w.scene.InReach w.guard.context.config w.guard.context.navigator := by
  refine ⟨target, htarget, ?_⟩
  unfold DirectNavigator.hasReachedDestination at harrived
  rw [hdestination] at harrived
  have hdistance : w.guard.context.navigator.position.distance target ≤
      atLeastZero s.guard.waypointReachDistance := by
    rw [← Vec3.distance_congr hsame, ← h.arrivalDistance]
    exact of_decide_eq_true harrived
  have hcatch : atLeastZero s.guard.waypointReachDistance < s.guard.catchDistance :=
    atLeastZero_lt hnear (Guard.Config.zero_lt_catchDistance hs)
  rw [h.config]
  exact Single.lt_of_le_of_lt hdistance hcatch

/-- A chasing guard that has arrived at its target reports it caught in the next step, if the
distance at which it has arrived is less than the one at which it catches. -/
theorem arrived_means_caught (hs : s.check = .ok ())
    (hnear : s.guard.waypointReachDistance < s.guard.catchDistance)
    (hw : start s seed dt = .ok w) (n : Nat) (hchase : (w.run n).guard.state = .chase)
    {destination target : Vec3}
    (hdestination : (w.run n).guard.context.navigator.destination = some destination)
    (htarget : (w.run n).target.position = some target) (hsame : (destination == target) = true)
    (harrived : (w.run n).guard.context.navigator.hasReachedDestination = true) :
    (w.run n).step.step.state = .chase ∧
      (w.run (n + 1)).guard.memory.caughtReports = (w.run n).guard.memory.caughtReports + 1 ∧
      (w.run (n + 1)).summary.caught = (w.run n).summary.caught + 1 := by
  have hgoes : (w.run n).GoesBy s := (goesBy_start hw).run n
  have hreach := hgoes.inReach (Scenario.check_eq_ok.1 hs).1 hnear hdestination htarget hsame harrived
  obtain ⟨hstate, hreports, htallies⟩ := hgoes.reachable.caught hreach
  have hreported : (w.run n).Reported := (accounts_start hw).2.1.run n
  have hbefore := congrArg Tallies.caught hreported.summary
  have hafter := congrArg Tallies.caught htallies
  rw [run_succ]
  refine ⟨hstate.trans hchase, hreports, hafter.trans ?_⟩
  rw [hbefore]

/-- A guard that has walked up to the target in front of it. -/
theorem arrived_means_caught_in_front :
    ∃ w, start { target.path := #[⟨0, 0, 9⟩] } 0 0.5 = .ok w ∧
      (w.run 4).guard.context.navigator.hasReachedDestination = true ∧
      (w.run 4).step.step.state = .chase ∧
      (w.run 5).guard.memory.caughtReports = (w.run 4).guard.memory.caughtReports + 1 ∧
      (w.run 5).summary.caught = (w.run 4).summary.caught + 1 := by
  obtain ⟨w, hw⟩ : ∃ w, start { target.path := #[⟨0, 0, 9⟩] } 0 0.5 = .ok w := ⟨_, rfl⟩
  have hthere : (w.run 4).guard.state = .chase ∧
      (w.run 4).guard.context.navigator.destination = some ⟨0, 0, 9⟩ ∧
      (w.run 4).target.position = some ⟨0, 0, 9⟩ ∧
      (w.run 4).guard.context.navigator.hasReachedDestination = true := by
    cases hw
    decide +kernel
  obtain ⟨hchase, hdestination, htarget, harrived⟩ := hthere
  exact ⟨w, hw, harrived, arrived_means_caught (by decide) (by decide) hw 4 hchase hdestination htarget
    (by decide) harrived⟩

/-- With a greater arrival distance a guard stays where it is, two units away from the target that it
chases, and does not catch it. -/
theorem arrived_without_catching :
    ∃ s : Scenario, s = { guard := { catchDistance := 1, waypointReachDistance := 3 }
                          target.path := #[⟨0, 0, 2⟩] } ∧
      s.check = .ok () ∧
      ∃ w, start s 0 0.5 = .ok w ∧
        (w.run 1).guard.state = .chase ∧
        (w.run 1).guard.context.navigator.destination = some ⟨0, 0, 2⟩ ∧
        (w.run 1).target.position = some ⟨0, 0, 2⟩ ∧
        (w.run 1).guard.context.navigator.hasReachedDestination = true ∧
        (w.run 2).guard.memory.caughtReports = (w.run 1).guard.memory.caughtReports ∧
        (w.run 2).summary.caught = (w.run 1).summary.caught :=
  ⟨_, rfl, by decide, _, rfl, by decide +kernel⟩

end Simulation
end Guardhouse
