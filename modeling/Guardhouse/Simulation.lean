import Guardhouse.Guard
import Guardhouse.Navigator.Direct
import Guardhouse.Simulation.Scenario
import Guardhouse.Simulation.Summary

/-!
# Simulations

One guard with a vision cone on a body that walks straight, its target, and the frame to come. In
every step the guard looks out from where its body is, is evaluated, and then its body and the
target walk.
-/

namespace Guardhouse

/-- A guard and its target between two frames. -/
structure Simulation where
  guard : Guard ConePerception DirectNavigator Announcer Trace
  target : Simulation.Target
  /-- The next frame. -/
  frame : Frame
  summary : Simulation.Summary := {}
  /-- The state that the last frame reported. -/
  last : Option Guard.State := none

namespace Simulation

/-- The number of the guard as an agent. -/
def agent : UInt64 := 1

/-- The simulation of a scenario, if its guard is sound. -/
def start (s : Scenario) (seed : UInt64) (dt : Float32) : Except Guard.Config.Error Simulation := do
  let cone : VisionCone := ⟨s.guard.viewDistance, s.guard.viewAngle⟩
  let body := DirectNavigator.start s.guardStart s.guardSpeed s.guard.waypointReachDistance
  let guard ← Guard.create s.guard s.route { cone : ConePerception } body ({} : Announcer)
  return {
    guard := (guard.withAgent agent).withTrace {}
    target := .start s.target
    frame := ⟨0, dt, seed⟩ }

/-- The simulation with the events of the guard's tree journaled or not. -/
def withDebug (w : Simulation) (debug : Bool) : Simulation :=
  { w with guard := w.guard.withDebug debug }

/-- The events that the guard has emitted. -/
def trace (w : Simulation) : Trace := w.guard.trace.getD {}

/-! ### Steps -/

/-- One frame as seen from outside. -/
structure Step where
  tick : UInt64
  state : Guard.State
  guard : Vec3
  target : Option Vec3
  deriving DecidableEq

/-- The saved form of a step. -/
def Step.toJson (s : Step) : Json :=
  .object [("tick", .ofWord s.tick), ("state", s.state.toJson), ("guard", s.guard.toJson),
    ("target", (s.target.map Vec3.toJson).getD .null)]

/-- What a step gives. -/
structure Outcome where
  step : Step
  simulation : Simulation
  journal : Journal

/-- Runs the next frame. -/
def step (w : Simulation) : Outcome :=
  let dt := w.frame.dt
  let body := w.guard.context.navigator
  let guard := w.guard.mapPerception fun p =>
    (p.withPose body.position (Navigator.forward body)).withTarget w.target.position
  let o := guard.evaluate w.frame
  let guard := o.guard.mapNavigator (·.step dt)
  let target := w.target.advance dt
  let tallies := guard.context.referee.tallies
  { step :=
      { tick := w.frame.tick
        state := o.state
        guard := guard.context.navigator.position
        target := target.position }
    simulation :=
      { guard
        target
        frame := w.frame.next
        summary :=
          { w.summary.record w.last o.state with
            caught := tallies.caught
            spotted := tallies.spotted }
        last := some o.state }
    journal := o.journal }

/-- The simulation after a number of frames, with what `f` has gathered from their outcomes in
order. -/
def gather {α : Type} (f : α → Outcome → α) (gathered : α) (w : Simulation) : Nat → α × Simulation
  | 0 => (gathered, w)
  | n + 1 =>
    let o := w.step
    gather f (f gathered o) o.simulation n

/-- The simulation after a number of frames. -/
def run (w : Simulation) : Nat → Simulation
  | 0 => w
  | n + 1 => w.step.simulation.run n

theorem run_add (w : Simulation) (m n : Nat) : w.run (m + n) = (w.run m).run n := by
  induction m generalizing w with
  | zero => rw [Nat.zero_add]; rfl
  | succ m ih => rw [Nat.succ_add]; exact ih _

end Simulation

end Guardhouse
