/-!
# Statuses

What evaluating a node of a tree gives for one tick. `running` is an answer like the others: it asks
to be evaluated again at the next tick.
-/

namespace Guardhouse

/-- The outcome of a node for one tick. -/
inductive Status where
  | success
  | failure
  | running
  deriving DecidableEq, Repr

namespace Status

/-- Success and failure exchanged. -/
def invert : Status → Status
  | success => failure
  | failure => success
  | running => running

/-- The number of a status in trace events. -/
def code : Status → UInt64
  | success => 0
  | failure => 1
  | running => 2

/-- The name of a status in descriptions and log records. -/
def name : Status → String
  | success => "Success"
  | failure => "Failure"
  | running => "Running"

/-- Success if `b` holds, else failure. -/
def ofBool (b : Bool) : Status := if b then success else failure

@[simp] theorem invert_invert (s : Status) : s.invert.invert = s := by cases s <;> rfl

end Status

end Guardhouse
