import Guardhouse.Yaml.Token

/-!
# YAML documents

A document is a tree of nodes. An alias refers to a node by the number of its anchor. Anchors are
numbered by how many different names came before them, so an anchor that takes up an earlier name
may share its number with the next new name; of several nodes with a number an alias means the last.
-/

namespace Guardhouse
namespace Yaml

/-- The full address of the tag of a standard kind. -/
def standardTag (kind : String) : String := "tag:yaml.org,2002:" ++ kind

/-- A node of a document. -/
inductive Node where
  /-- A scalar with the full address of its tag, if it has one. -/
  | scalar (style : Style) (tag : Option String) (content : String)
  | sequence (items : List Node)
  | mapping (entries : List (Node × Node))
  /-- A node that aliases may refer to. -/
  | anchored (id : Nat) (node : Node)
  | reference (id : Nat)

namespace Node

/-- A node that is left out: a plain scalar without content. -/
def empty : Node := .scalar .plain none ""

/-- A node without its anchor. -/
def bare : Node → Node
  | anchored _ node => node.bare
  | node => node

mutual

/-- The nodes with anchors, each before those inside it. -/
def anchors : Node → List (Nat × Node)
  | scalar _ _ _ => []
  | sequence items => anchorsOfItems items
  | mapping entries => anchorsOfEntries entries
  | anchored id node => (id, node) :: anchors node
  | reference _ => []

/-- The nodes with anchors of a list. -/
def anchorsOfItems : List Node → List (Nat × Node)
  | [] => []
  | item :: rest => anchors item ++ anchorsOfItems rest

/-- The nodes with anchors of a mapping. -/
def anchorsOfEntries : List (Node × Node) → List (Nat × Node)
  | [] => []
  | (key, value) :: rest => anchors key ++ anchors value ++ anchorsOfEntries rest

end

mutual

/-- The number of marks in a node: one for a scalar and for an alias, and two around every list and
every mapping. -/
def marks : Node → Nat
  | scalar _ _ _ => 1
  | sequence items => marksOfItems items + 2
  | mapping entries => marksOfEntries entries + 2
  | anchored _ node => marks node
  | reference _ => 1

/-- The number of marks in the items of a list. -/
def marksOfItems : List Node → Nat
  | [] => 0
  | item :: rest => marks item + marksOfItems rest

/-- The number of marks in the entries of a mapping. -/
def marksOfEntries : List (Node × Node) → Nat
  | [] => 0
  | (key, value) :: rest => marks key + marks value + marksOfEntries rest

end

end Node

/-- A document: its root and the nodes that aliases may refer to. -/
structure Document where
  root : Node
  targets : List (Nat × Node)

namespace Document

/-- The document of a root. -/
def ofRoot (root : Node) : Document := ⟨root, root.anchors.reverse⟩

/-- The node that an alias refers to by a number. -/
def target? (d : Document) (id : Nat) : Option Node := (d.targets.lookup id).map Node.bare

/-- How many aliases a reading of a document may follow: a hundred for every mark in it. -/
def allowance (d : Document) : Nat := 100 * d.root.marks

end Document
end Yaml
end Guardhouse
