import Guardhouse.Status
import Guardhouse.Guard.State

/-!
# Journals

What the library reports while it works, for people to read: a list of entries, the oldest first.
An entry is what happened; its level, message and fields are how it is shown.
-/

namespace Guardhouse

/-- How much an entry matters, the least first. -/
inductive Journal.Level where
  | trace
  | debug
  | info
  | warn
  deriving DecidableEq, Repr

/-- Something that happened. -/
inductive Journal.Entry where
  /-- A runner without a root was ticked. -/
  | noRoot (tick : UInt64)
  /-- A runner evaluated its tree. -/
  | treeTick (tick : UInt64) (status : Status) (root : String)
  /-- A guard has the target in catch range. -/
  | caught (agent tick : UInt64) (state : Guard.State)
  /-- A guard begins a pursuit. -/
  | spotted (agent tick : UInt64)
  /-- A guard changes its state. -/
  | transition (agent tick : UInt64) (source target : Guard.State)
  /-- A guard heads for the next waypoint of its route. -/
  | nextWaypoint (agent : UInt64) (waypoint : Nat)
  /-- The target was caught, for the `total`th time. -/
  | caughtCount (total : UInt64)
  /-- The target was spotted, for the `total`th time. -/
  | spottedCount (total : UInt64)
  deriving DecidableEq, Repr

/-- What happened, the earliest first. -/
abbrev Journal := Array Journal.Entry

namespace Journal

/-- The name of a level. -/
def Level.name : Level → String
  | trace => "TRACE"
  | debug => "DEBUG"
  | info => "INFO"
  | warn => "WARN"

namespace Entry

def level : Entry → Level
  | noRoot .. => .warn
  | treeTick .. => .debug
  | caught .. => .info
  | spotted .. => .info
  | transition .. => .debug
  | nextWaypoint .. => .trace
  | caughtCount .. => .info
  | spottedCount .. => .info

def message : Entry → String
  | noRoot .. => "behavior tree has no root node"
  | treeTick .. => "behavior tree tick"
  | caught .. => "target caught"
  | spotted .. => "target spotted, pursuing"
  | transition .. => "guard state transition"
  | nextWaypoint .. => "next patrol waypoint"
  | caughtCount .. => "target caught"
  | spottedCount .. => "target spotted"

/-- The names and values that go with the message. -/
def fields : Entry → List (String × String)
  | noRoot tick => [("tick", toString tick)]
  | treeTick tick status root =>
    [("tick", toString tick), ("status", status.name), ("root", root)]
  | caught agent tick state =>
    [("agent", toString agent), ("tick", toString tick), ("state", state.label)]
  | spotted agent tick => [("agent", toString agent), ("tick", toString tick)]
  | transition agent tick source target =>
    [("agent", toString agent), ("tick", toString tick), ("from", source.label),
      ("to", target.label)]
  | nextWaypoint agent waypoint => [("agent", toString agent), ("waypoint", toString waypoint)]
  | caughtCount total => [("total", toString total)]
  | spottedCount total => [("total", toString total)]

/-- An entry as one line. -/
def render (e : Entry) : String :=
  String.intercalate " " (e.level.name :: e.message :: e.fields.map fun (name, value) =>
    name ++ "=" ++ value)

end Entry
end Journal

end Guardhouse
