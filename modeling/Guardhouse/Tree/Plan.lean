import Guardhouse.Tree.Node

/-!
# Plans

A plan is the fixed part of a behaviour tree: its nodes in an array, each referring to its children
by index, and the index of its root. Children come after their parents in the array, so every walk
down a plan ends. Nodes that the root does not lead to may remain in the array; they can still be
evaluated by their index.

`preorder` lists a node and everything below it, each node before its children and children in
order.
-/

namespace Guardhouse

/-- The nodes of a tree and its root. -/
structure Plan (C σ : Type) where
  nodes : Array (Node C σ)
  root : Option Nat
  /-- Children come after their parents. -/
  forward : ∀ (i : Nat) (h : i < nodes.size), ∀ c ∈ nodes[i].children, i < c ∧ c < nodes.size

namespace Plan

variable {C σ : Type}

/-- The number of nodes. -/
abbrev size (p : Plan C σ) : Nat := p.nodes.size

/-- The node with an index. -/
def node? (p : Plan C σ) (i : Nat) : Option (Node C σ) := p.nodes[i]?

/-- The name of the node with an index. -/
def name? (p : Plan C σ) (i : Nat) : Option String := (p.node? i).map (·.name)

/-- The children of the node with an index; none if there is no such node. -/
def children (p : Plan C σ) (i : Nat) : List Nat := ((p.node? i).map Node.children).getD []

theorem lt_of_mem_children {p : Plan C σ} {i c : Nat} (h : c ∈ p.children i) :
    i < c ∧ c < p.size := by
  unfold children node? at h
  by_cases hi : i < p.nodes.size
  · simp [Array.getElem?_eq_getElem hi] at h
    exact p.forward i hi c h
  · simp [Array.getElem?_eq_none (Nat.le_of_not_lt hi)] at h

/-! ### Growing -/

/-- The plan without nodes. -/
def empty : Plan C σ where
  nodes := #[]
  root := none
  forward i h := absurd h (Nat.not_lt_zero i)

/-- The plan with one more node, which has no children yet. -/
def push (p : Plan C σ) (n : Node C σ) (hn : n.children = []) : Plan C σ where
  nodes := p.nodes.push n
  root := p.root
  forward i h c hc := by
    rw [Array.size_push] at h
    rw [Array.getElem_push] at hc
    split at hc
    · have := p.forward i (by assumption) c hc
      rw [Array.size_push]; omega
    · rw [hn] at hc; simp at hc

@[simp] theorem size_push (p : Plan C σ) (n : Node C σ) (hn : n.children = []) :
    (p.push n hn).size = p.size + 1 := by simp [push, size]

/-- The plan in which `parent` has `child` as its last child. -/
def attach (p : Plan C σ) (parent child : Nat) (h : parent < child ∧ child < p.size) :
    Plan C σ where
  nodes := p.nodes.modify parent (·.adopt child)
  root := p.root
  forward i hi c hc := by
    rw [Array.size_modify] at hi ⊢
    rw [Array.getElem_modify] at hc
    split at hc
    · rename_i hp
      rcases Node.mem_children_adopt hc with rfl | hc
      · exact hp ▸ h
      · exact p.forward i hi c hc
    · exact p.forward i hi c hc

@[simp] theorem size_attach (p : Plan C σ) (parent child : Nat)
    (h : parent < child ∧ child < p.size) :
    (p.attach parent child h).size = p.size := by simp [attach, size]

/-- The plan with another root. -/
def withRoot (p : Plan C σ) (root : Nat) : Plan C σ := { p with root := some root }

@[simp] theorem size_withRoot (p : Plan C σ) (root : Nat) : (p.withRoot root).size = p.size := rfl

/-! ### Walking -/

/-- The nodes at and below an index, each before its children; none if there is no such node. -/
def preorder (p : Plan C σ) (i : Nat) : List Nat :=
  if i < p.size then
    i :: (p.children i).attach.flatMap fun ⟨c, _⟩ => p.preorder c
  else []
termination_by p.size - i
decreasing_by
  have := lt_of_mem_children ‹_›
  omega

/-- The nodes that the root leads to. -/
def reachable (p : Plan C σ) : List Nat := (p.root.map p.preorder).getD []

/-- The first of the reachable nodes with a name. -/
def find? (p : Plan C σ) (name : String) : Option Nat :=
  p.reachable.find? fun i => p.name? i == some name

end Plan

end Guardhouse
