import Guardhouse.Json.Record
import Guardhouse.Json.Writer

/-!
# States of a guard

The decision that a guard reports after every frame.
-/

namespace Guardhouse
namespace Guard

/-- What a guard is doing. -/
inductive State where
  | patrol
  | chase
  | search
  | returnToPatrol
  deriving DecidableEq, Repr, Inhabited

namespace State

/-- The number of a state in trace events. -/
def code : State → UInt64
  | patrol => 0
  | chase => 1
  | search => 2
  | returnToPatrol => 3

/-- The label of a state in log records. -/
def label : State → String
  | patrol => "patrol"
  | chase => "chase"
  | search => "search"
  | returnToPatrol => "return_to_patrol"

/-- The name of a state in saved data. -/
def name : State → String
  | patrol => "Patrol"
  | chase => "Chase"
  | search => "Search"
  | returnToPatrol => "ReturnToPatrol"

/-- All states, in the order of their numbers. -/
def all : List State := [patrol, chase, search, returnToPatrol]

/-- The state with a name. -/
def ofName? (s : String) : Option State := all.find? (·.name == s)

@[simp] theorem ofName?_name (s : State) : ofName? s.name = some s := by cases s <;> rfl

theorem code_inj {s t : State} : s.code = t.code ↔ s = t := by
  cases s <;> cases t <;> decide

/-- The saved form of a state: its name. -/
def toJson (s : State) : Json := .text s.name

/-- Reads the saved form of a state: its name, or an object whose only field has that name and the
value null. -/
def ofJson? : Json → Option State
  | .text name => ofName? name
  | .object [(name, .null)] => ofName? name
  | _ => none

/-- Reads the saved text of a state. -/
def parse? (s : String) : Option State := do ofJson? (← Json.read? s)

end State
end Guard
end Guardhouse
