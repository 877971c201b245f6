import Guardhouse.Tree

/-!
# Building trees

A tree is written as a list of lines, in the order of its nodes: a line opens a composite or a
decorator, puts a leaf, or closes what was opened last. A node becomes a child of whatever is open
on top, or the root if nothing is. A composite stays open until it is closed; a decorator closes
itself when it gets its child.

Nesting is not checked. A composite that is never closed does no harm, a close with nothing open
does nothing, and another node at the top takes the root over from the one before, which stays in
the arena.
-/

namespace Guardhouse

/-- A line of the outline of a tree. -/
inductive Line (C σ : Type) where
  | composite (name : String) (rule : Composite)
  | decorator (name : String) (rule : Decorator)
  | leaf (name : String) (action : Leaf C σ)
  /-- Closes what was opened last. -/
  | close

/-- An open node: whether it closes itself with its first child, and its index. -/
structure Slot where
  single : Bool
  index : Nat
  deriving DecidableEq, Repr

/-- A plan under construction and the nodes that are open, the innermost first. -/
structure Builder (C σ : Type) where
  plan : Plan C σ
  slots : List Slot
  slots_lt : ∀ s ∈ slots, s.index < plan.size

namespace Builder

variable {C σ : Type}

/-- The beginning: no nodes, and none open. -/
def empty : Builder C σ where
  plan := .empty
  slots := []
  slots_lt _ h := absurd h List.not_mem_nil

/-- The number of nodes that are open. -/
def depth (b : Builder C σ) : Nat := b.slots.length

/-- Adds a node without children to whatever is open on top, or makes it the root. -/
def add (b : Builder C σ) (n : Node C σ) (hn : n.children = []) : Builder C σ :=
  let id := b.plan.size
  let plan := b.plan.push n hn
  match hs : b.slots with
  | [] =>
    { plan := plan.withRoot id
      slots := []
      slots_lt := fun _ h => absurd h List.not_mem_nil }
  | slot :: rest =>
    have hslot : slot.index < b.plan.size := b.slots_lt slot (by simp [hs])
    have hslots : ∀ s ∈ slot :: rest, s.index < b.plan.size := fun s h => b.slots_lt s (hs ▸ h)
    { plan := plan.attach slot.index id ⟨hslot, by simp [plan, id]⟩
      slots := if slot.single then rest else slot :: rest
      slots_lt := by
        intro s h
        have : s.index < b.plan.size := hslots s (by split at h <;> simp_all)
        simp [plan]; omega }

theorem size_add (b : Builder C σ) (n : Node C σ) (hn : n.children = []) :
    (b.add n hn).plan.size = b.plan.size + 1 := by
  unfold add; split <;> simp

/-- Adds a node and keeps it open. -/
def openNode (b : Builder C σ) (n : Node C σ) (hn : n.children = []) (single : Bool) :
    Builder C σ where
  plan := (b.add n hn).plan
  slots := ⟨single, b.plan.size⟩ :: (b.add n hn).slots
  slots_lt := by
    intro s h
    rcases List.mem_cons.1 h with rfl | h
    · simp [size_add]
    · exact (b.add n hn).slots_lt s h

/-- Closes what was opened last, if anything is open. -/
def close (b : Builder C σ) : Builder C σ where
  plan := b.plan
  slots := b.slots.tail
  slots_lt s h := b.slots_lt s (List.mem_of_mem_tail h)

/-- Follows one line. -/
def write (b : Builder C σ) : Line C σ → Builder C σ
  | .composite name rule => b.openNode ⟨name, .composite rule []⟩ rfl false
  | .decorator name rule => b.openNode ⟨name, .decorator rule none⟩ rfl true
  | .leaf name action => b.add ⟨name, .leaf action⟩ rfl
  | .close => b.close

/-- Follows lines in order. -/
def writeAll (b : Builder C σ) (lines : List (Line C σ)) : Builder C σ := lines.foldl write b

theorem writeAll_append (b : Builder C σ) (first second : List (Line C σ)) :
    b.writeAll (first ++ second) = (b.writeAll first).writeAll second := List.foldl_append

end Builder

/-- The plan that lines outline. -/
def Plan.ofLines {C σ : Type} (lines : List (Line C σ)) : Plan C σ :=
  (Builder.empty.writeAll lines).plan

/-- The tree that lines outline. -/
def Tree.ofLines {C σ : Type} (lines : List (Line C σ)) : Tree C σ := .ofPlan (.ofLines lines)

end Guardhouse
