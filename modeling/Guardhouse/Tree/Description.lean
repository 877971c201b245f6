import Guardhouse.Tree
import Guardhouse.Number.Layout
import Guardhouse.Text.Quoted

/-!
# Descriptions of trees

A tree as a text that shows its root and its nodes with their parameters, counters and waits.
-/

namespace Guardhouse

namespace Description

/-- A name with fields between braces. -/
def record (name : String) (fields : List (String × String)) : String :=
  let fields := fields.map fun (field, value) => field ++ ": " ++ value
  name ++ " \x7b " ++ String.intercalate ", " fields ++ " \x7d"

/-- A name with a value between parentheses. -/
def wrap (name value : String) : String := name ++ "(" ++ value ++ ")"

/-- Values between brackets. -/
def list (values : List String) : String := "[" ++ String.intercalate ", " values ++ "]"

/-- A value that may be missing. -/
def optional : Option String → String
  | some value => wrap "Some" value
  | none => "None"

/-- The index of a node. -/
def nodeId (i : Nat) : String := wrap "NodeId" (toString i)

/-- Durations are written in plain notation from `0.0001` up to below `1e16`. -/
def durationLayout : Layout := ⟨-4, 15, false, .awayFromZero⟩

/-- A duration in seconds. -/
def duration (x : Float) : String :=
  match durationLayout.double? x with
  | some text => text
  | none => if x.isNaN then "NaN" else if 0 < x then "inf" else "-inf"

def composite : Composite → String
  | .selector => "Selector"
  | .sequence => "Sequence"
  | .parallel required => record "Parallel" [("required_successes", toString required)]

def decorator {σ : Type} (cell : Cell σ) : Decorator → String
  | .inverter => "Inverter"
  | .succeeder => "Succeeder"
  | .failer => "Failer"
  | .repeater count =>
    record "Repeater" [("count", toString count), ("current", toString cell.times)]
  | .repeatUntilFail => "RepeatUntilFail"

def leaf {C σ : Type} (cell : Cell σ) : Leaf C σ → String
  | .condition _ => "Condition"
  | .action _ _ => "Action"
  | .perform _ _ => "SimpleAction"
  | .wait seconds _ =>
    record "Wait" [("duration", duration seconds), ("waiting", toString cell.since?.isSome)]

def kind {C σ : Type} (cell : Cell σ) : Node.Kind C σ → String
  | .composite rule children =>
    wrap "Composite"
      (record "Composite" [("kind", composite rule), ("children", list (children.map nodeId))])
  | .decorator rule child =>
    wrap "Decorator"
      (record "Decorator" [("kind", decorator cell rule), ("child", optional (child.map nodeId))])
  | .leaf action => wrap "Leaf" (leaf cell action)

/-- A node with what it remembers. -/
def node {C σ : Type} (cell : Cell σ) (n : Node C σ) : String :=
  record "Node" [("name", Text.quoted n.name), ("kind", kind cell n.kind)]

end Description

/-- The description of a tree. -/
def Tree.describe {C σ : Type} (t : Tree C σ) : String :=
  let nodes := t.plan.nodes.toList.zipWith (fun n cell => Description.node cell n) t.cells.toList
  Description.record "Tree"
    [("root", Description.optional (t.plan.root.map Description.nodeId)),
      ("nodes", Description.list nodes)]

end Guardhouse
