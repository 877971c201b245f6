import Guardhouse.Number.Decimal
import Guardhouse.Yaml.Document

/-!
# Typed views of YAML nodes

A `View` reads a value off nodes of a document. Wherever it meets an alias it goes on with the node
that is meant; how often it may do so is limited by the size of the document, as a short document
can stand for a very long one by its aliases.

A record is read from a mapping whose keys are scalars; the names of the record stand in it at most
once, among any others. Numbers and truth values are plain scalars, or literal ones that are tagged
as such. Where a record or a list is wanted, a node that is left out has no entries.
-/

namespace Guardhouse
namespace Yaml

/-- A reading of nodes in a document, which counts down how many aliases it may still follow. -/
abbrev View := ReaderT Document (StateT Nat Option)

namespace View

/-- What a view reads off the root of a document. -/
def ofRoot? (view : Node → View α) (d : Document) : Option α :=
  ((view d.root).run d).run' d.allowance

/-- What a node stands for: the target of an alias, any other node itself. -/
def follow (node : Node) : View Node := do
  match node.bare with
  | .reference id =>
    match ← get with
    | 0 => failure
    | left + 1 => do
      set left
      (← read).target? id
  | node => return node

/-! ### Lists and texts -/

/-- The items of a list. -/
def items (node : Node) : View (List Node) := do
  match ← follow node with
  | .sequence items => return items
  | .scalar .plain _ "" => return []
  | _ => failure

/-- The items of a list, each read by `item`. -/
def listOf (item : Node → View α) (node : Node) : View (List α) := do
  (← items node).mapM item

/-- The text of a scalar, however it is written. -/
def text (node : Node) : View String := do
  match ← follow node with
  | .scalar _ _ content => return content
  | _ => failure

/-! ### Records -/

/-- The entries of a mapping, by the texts of their keys. -/
def entries (node : Node) : View (List (String × Node)) := do
  match ← follow node with
  | .mapping entries => entries.mapM fun (key, value) => return (← text key, value)
  | .scalar .plain _ "" => return []
  | _ => failure

/-- The values of a name in a record: one or none. More than one are refused. -/
def value (entries : List (String × Node)) (name : String) : View (Option Node) :=
  match entries.filter (·.1 == name) with
  | [] => return none
  | [(_, node)] => return some node
  | _ => failure

/-- The values of the fields of a record, in the order of their names. -/
def record (names : List String) (node : Node) : View (List (Option Node)) := do
  names.mapM (value (← entries node))

/-- The value of an optional field, or `default` if it is not there. -/
def orDefault (view : Node → View α) (default : α) : Option Node → View α
  | some node => view node
  | none => return default

/-! ### Scalars -/

/-- The number that a plain scalar writes: a decimal in the range of doubles, an infinity or what is
not a number. Neither is written without a point before it. -/
def numberOf? (s : String) : Option Float :=
  let (negative, magnitude) := Decimal.takeSign s.toList
  if [".inf", ".Inf", ".INF"].contains (String.ofList magnitude) then
    some (.ofBits (if negative then 0xFFF0000000000000 else 0x7FF0000000000000))
  else if [".nan", ".NaN", ".NAN"].contains s then some (.ofBits 0x7FF8000000000000)
  else do
    let x := (← Decimal.read? s.toList).toDouble
    if x.isFinite then some x else none

/-- The truth value that a plain scalar writes. -/
def boolOf? : String → Option Bool
  | "true" => some true
  | "True" => some true
  | "TRUE" => some true
  | "false" => some false
  | "False" => some false
  | "FALSE" => some false
  | _ => none

/-- The text of a scalar that may stand for a value of a standard kind: of a plain one, or of a
literal one whose tag is that of the kind. -/
def valueText (kind : String) (node : Node) : View String := do
  match ← follow node with
  | .scalar .plain _ content => return content
  | .scalar .literal (some tag) content =>
    if tag == standardTag kind then return content else failure
  | _ => failure

/-- The single nearest to the number that a node writes. -/
def single (node : Node) : View Float32 := do
  return narrow (← numberOf? (← valueText "float" node))

/-- A truth value. -/
def bool (node : Node) : View Bool := do
  boolOf? (← valueText "bool" node)

end View
end Yaml
end Guardhouse
