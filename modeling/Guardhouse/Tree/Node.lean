import Guardhouse.Tree.Composite

/-!
# Nodes

The nodes of a behaviour tree. Composites and decorators refer to their children by index; leaves
act on the context `C` that the tree is evaluated with. A leaf may keep a value of type `σ` of its
own from one evaluation to the next; the node holds the value it starts with, and no node changes.
-/

namespace Guardhouse

/-- The kinds of nodes that change the status of one child. -/
inductive Decorator where
  /-- Exchanges success and failure. -/
  | inverter
  /-- Always succeeds. -/
  | succeeder
  /-- Always fails. -/
  | failer
  /-- Evaluates its child `count` times, running each time, and then succeeds without it. -/
  | repeater (count : Nat)
  /-- Runs until its child fails, and then succeeds. -/
  | repeatUntilFail
  deriving DecidableEq, Repr

namespace Decorator

/-- The status of a decorator whose child has been evaluated. -/
def respond : Decorator → Status → Status
  | inverter, status => status.invert
  | succeeder, _ => .success
  | failer, _ => .failure
  | repeater _, _ => .running
  | repeatUntilFail, .failure => .success
  | repeatUntilFail, _ => .running

end Decorator

/-- The nodes that act on the context. -/
inductive Leaf (C σ : Type) where
  /-- Succeeds if the test holds. A test may use up an observation of the context. -/
  | condition (test : C → Bool × C)
  /-- Acts and reports a status. -/
  | action (start : σ) (act : C → σ → Status × C × σ)
  /-- Acts and succeeds. -/
  | perform (start : σ) (act : C → σ → C × σ)
  /-- Runs until `seconds` have passed on the clock, and then succeeds. -/
  | wait (seconds : Float) (clock : C → Float)

namespace Leaf

variable {C : Type}

/-- An action without a value of its own. -/
def act (f : C → Status × C) : Leaf C Unit :=
  .action () fun c _ => let (status, c) := f c; (status, c, ())

/-- A side effect without a value of its own. -/
def effect (f : C → C) : Leaf C Unit := .perform () fun c _ => (f c, ())

end Leaf

/-- What a node is, with the indices of its children. -/
inductive Node.Kind (C σ : Type) where
  | composite (rule : Composite) (children : List Nat)
  | decorator (rule : Decorator) (child : Option Nat)
  | leaf (action : Leaf C σ)

/-- A node of an arena. The name is for diagnostics and need not be unique. -/
structure Node (C σ : Type) where
  name : String
  kind : Node.Kind C σ

namespace Node

variable {C σ : Type}

/-- The children of a kind of node, in order. -/
def Kind.children : Kind C σ → List Nat
  | .composite _ children => children
  | .decorator _ child => child.toList
  | .leaf _ => []

/-- The children of a node, in order. -/
def children (n : Node C σ) : List Nat := n.kind.children

/-- A kind of node with one more child; a leaf takes none, and a decorator keeps the last. -/
def Kind.adopt (child : Nat) : Kind C σ → Kind C σ
  | .composite rule children => .composite rule (children ++ [child])
  | .decorator rule _ => .decorator rule (some child)
  | .leaf action => .leaf action

/-- A node with one more child. -/
def adopt (n : Node C σ) (child : Nat) : Node C σ := { n with kind := n.kind.adopt child }

theorem mem_children_adopt {n : Node C σ} {child c : Nat} (h : c ∈ (n.adopt child).children) :
    c = child ∨ c ∈ n.children := by
  rcases n with ⟨name, kind⟩
  cases kind with
  | composite rule children =>
    have h : c ∈ children ++ [child] := h
    rcases List.mem_append.1 h with h | h
    · exact Or.inr h
    · exact Or.inl (List.mem_singleton.1 h)
  | decorator rule old =>
    have h : c ∈ [child] := h
    exact Or.inl (List.mem_singleton.1 h)
  | leaf action =>
    have h : c ∈ ([] : List Nat) := h
    cases h

end Node

end Guardhouse
