import Guardhouse.Frame
import Guardhouse.Navigator
import Guardhouse.Guard.Config
import Guardhouse.Guard.Memory
import Guardhouse.Guard.Perception
import Guardhouse.Guard.Referee

/-!
# The context of a guard

What the tree of a guard works on: its tuning, its route and its memory, the perception, the body
and the referee it was given, the frame under evaluation, and the journal of that frame.
-/

namespace Guardhouse
namespace Guard

/-- The context of a guard with perception `P`, body `N` and referee `R`. -/
structure Context (P N R : Type) where
  agent : UInt64 := 0
  config : Config
  route : Array Vec3
  memory : Memory
  perception : P
  navigator : N
  referee : R
  /-- The frame under evaluation, or the last one. -/
  frame : Frame := ⟨0, 0, 0⟩
  /-- What happened in that frame. -/
  journal : Journal := #[]

namespace Context

variable {P N R : Type}

/-- The context of a guard that has not seen a frame yet: on patrol, heading for the first waypoint.
-/
def start (config : Config) (route : Array Vec3) (perception : P) (navigator : N) (referee : R) :
    Context P N R where
  config := config
  route := route
  memory := { speedMultiplier := config.patrolSpeedMultiplier }
  perception := perception
  navigator := navigator
  referee := referee

/-- The context at the beginning of a frame. -/
def begin (c : Context P N R) (frame : Frame) : Context P N R :=
  { c with
    frame
    journal := #[]
    memory.clock := c.memory.clock + widen frame.dt }

/-- The time that passes in the frame. -/
def dt (c : Context P N R) : Float32 := c.frame.dt

/-- The waypoint that the guard is heading for; none on an empty route. -/
def waypoint? (c : Context P N R) : Option Vec3 := c.route[c.memory.patrolIndex % c.route.size]?

/-- Writes to the journal. -/
def note (c : Context P N R) (entry : Journal.Entry) : Context P N R :=
  { c with journal := c.journal.push entry }

/-! ### Perception -/

section Perception

variable [Perception P]

/-- Asks where the target is. -/
def askPosition (c : Context P N R) : Option Vec3 × Context P N R :=
  let (target, perception) := Perception.targetPosition c.perception
  (target, { c with perception })

/-- Asks whether the target is perceived, and if so, where it is. -/
def perceive (c : Context P N R) : Option Vec3 × Context P N R :=
  let (perceived, perception) := Perception.canPerceiveTarget c.perception
  let c := { c with perception }
  if perceived then c.askPosition else (none, c)

end Perception

/-! ### Orders to the body -/

section Navigator

variable [Navigator N]

/-- Sends the body somewhere. -/
def headFor (c : Context P N R) (destination : Vec3) : Context P N R :=
  { c with navigator := Navigator.setDestination c.navigator destination }

/-- Sends the body to the waypoint that the guard is heading for, if there is one. -/
def headForWaypoint (c : Context P N R) : Context P N R :=
  match c.waypoint? with
  | some waypoint => c.headFor waypoint
  | none => c

/-- Sets the speed of the body. -/
def pace (c : Context P N R) (multiplier : Float32) : Context P N R :=
  { c with navigator := Navigator.setSpeedMultiplier c.navigator multiplier }

/-- Turns the body, unless by nothing. -/
def turn (c : Context P N R) (degrees : Float32) : Context P N R :=
  if degrees != 0 then { c with navigator := Navigator.rotateBy c.navigator degrees } else c

/-- Whether the body has arrived. -/
def arrived (c : Context P N R) : Bool := Navigator.hasReachedDestination c.navigator

/-- The context in a state, and the body at the speed of that state. -/
def adopt (c : Context P N R) (next : State) : Context P N R :=
  { c with
    memory.state := next
    memory.speedMultiplier := c.config.speedMultiplier next }.pace (c.config.speedMultiplier next)

/-- Changes to another state, and reports whether the guard was not in that state already. -/
def enter (c : Context P N R) (next : State) : Bool × Context P N R :=
  if c.memory.state = next then (false, c)
  else (true, (c.note (.transition c.agent c.frame.tick c.memory.state next)).adopt next)

theorem enter_of_eq {c : Context P N R} {next : State} (h : c.memory.state = next) :
    c.enter next = (false, c) := if_pos h

@[simp] theorem state_enter (c : Context P N R) (next : State) :
    (c.enter next).2.memory.state = next := by
  unfold enter
  split
  · assumption
  · rfl

end Navigator

end Context
end Guard
end Guardhouse
