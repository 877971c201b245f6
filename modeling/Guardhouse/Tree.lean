import Guardhouse.Tree.Plan

/-!
# Behaviour trees

A tree is a plan together with one cell for each of its nodes: what a repeater has counted, since
when a wait has been waiting, what a leaf keeps for itself. Evaluating a node changes the context
and the cells, never the plan, and notes each node that it enters. Resetting a node forgets the
counts and ends the waits at and below it, and leaves alone what leaves keep for themselves.
-/

namespace Guardhouse

/-- What a node remembers from one evaluation to the next. -/
inductive Cell (σ : Type) where
  /-- Nothing yet: no count, no wait, the value that the leaf starts with. -/
  | fresh
  /-- A repeater has evaluated its child this often. -/
  | repeated (times : Nat)
  /-- A wait has been waiting since this reading of its clock. -/
  | waiting (since : Float)
  /-- A wait is over. The reading at which it began is left behind, and nothing reads it. -/
  | waited (since : Float)
  /-- A leaf keeps this value. -/
  | kept (value : σ)

namespace Cell

variable {σ : Type}

/-- The count of a repeater. -/
def times : Cell σ → Nat
  | repeated n => n
  | _ => 0

/-- The reading at which a wait began, if it is waiting. -/
def since? : Cell σ → Option Float
  | waiting since => some since
  | _ => none

/-- The value of a leaf that starts with `start`. -/
def value (start : σ) : Cell σ → σ
  | kept value => value
  | _ => start

/-- The cell after a reset: nothing is counted and nothing waits. The value that a leaf keeps
survives, and so does what is left of a wait. -/
def reset : Cell σ → Cell σ
  | kept value => kept value
  | waiting since => waited since
  | waited since => waited since
  | _ => fresh

end Cell

/-- The state of an evaluation over the cells of `n` nodes. -/
structure Evaluation (C σ : Type) (n : Nat) where
  context : C
  cells : Vector (Cell σ) n
  /-- The nodes entered, the earliest first. -/
  entered : Array Nat := #[]

namespace Evaluation

variable {C σ : Type} {n : Nat}

/-- Notes that a node is entered. -/
def enter (s : Evaluation C σ n) (i : Nat) : Evaluation C σ n :=
  { s with entered := s.entered.push i }

/-- Writes the cell of a node. -/
def store (s : Evaluation C σ n) (i : Nat) (h : i < n) (cell : Cell σ) : Evaluation C σ n :=
  { s with cells := s.cells.set i cell }

end Evaluation

namespace Leaf

variable {C σ : Type} {n : Nat}

/-- The step of a leaf at index `i`. -/
def evaluate (leaf : Leaf C σ) (i : Nat) (h : i < n) : Step (Evaluation C σ n) := fun s =>
  match leaf with
  | .condition test =>
    let (holds, context) := test s.context
    (.ofBool holds, { s with context })
  | .action start act =>
    let (status, context, value) := act s.context (s.cells[i].value start)
    (status, { s with context }.store i h (.kept value))
  | .perform start act =>
    let (context, value) := act s.context (s.cells[i].value start)
    (.success, { s with context }.store i h (.kept value))
  | .wait seconds clock =>
    let now := clock s.context
    let since := s.cells[i].since?.getD now
    if now - since < seconds then (.running, s.store i h (.waiting since))
    else (.success, s.store i h (.waited since))

end Leaf

namespace Decorator

variable {C σ : Type} {n : Nat}

/-- The step of a decorator at index `i` over the step of its child. A repeater that has counted
enough leaves the child alone. -/
def evaluate (rule : Decorator) (i : Nat) (h : i < n) (child : Step (Evaluation C σ n)) :
    Step (Evaluation C σ n) := fun s =>
  match rule with
  | .repeater count =>
    if count ≤ s.cells[i].times then (.success, s)
    else
      let (_, s) := child s
      (.running, s.store i h (.repeated (s.cells[i].times + 1)))
  | rule =>
    let (status, s) := child s
    (rule.respond status, s)

end Decorator

namespace Plan

variable {C σ : Type}

/-- Evaluates the node with an index. Where there is no such node, and at a decorator without a
child, it fails. -/
def evaluate (p : Plan C σ) (i : Nat) : Step (Evaluation C σ p.size) := fun s =>
  if h : i < p.size then
    let s := s.enter i
    match p.nodes[i].kind with
    | .leaf action => action.evaluate i h s
    | .composite rule _ => rule.run ((p.children i).attach.map fun ⟨c, _⟩ => p.evaluate c) s
    | .decorator rule _ =>
      match (p.children i).attach with
      | ⟨c, _⟩ :: _ => rule.evaluate i h (p.evaluate c) s
      | [] => (.failure, s)
  else (.failure, s)
termination_by p.size - i
decreasing_by
  all_goals
    have := lt_of_mem_children ‹_›
    omega

/-- The cells after a reset of one node. -/
def resetCell {n : Nat} (cells : Vector (Cell σ) n) (i : Nat) : Vector (Cell σ) n :=
  if h : i < n then cells.set i cells[i].reset else cells

/-- The cells after a reset of the node with an index and everything below it. -/
def resetCells (p : Plan C σ) (i : Nat) (cells : Vector (Cell σ) p.size) :
    Vector (Cell σ) p.size :=
  (p.preorder i).foldl resetCell cells

end Plan

/-- A behaviour tree: a plan and what its nodes remember. -/
structure Tree (C σ : Type) where
  plan : Plan C σ
  cells : Vector (Cell σ) plan.size

namespace Tree

variable {C σ : Type}

/-- The tree of a plan whose nodes remember nothing yet. -/
def ofPlan (plan : Plan C σ) : Tree C σ := ⟨plan, .replicate plan.size .fresh⟩

/-- The tree without nodes. -/
def empty : Tree C σ := ofPlan .empty

/-- What an evaluation gives: a status, the new context, the new tree, and the nodes entered. -/
structure Outcome (C σ : Type) where
  status : Status
  context : C
  tree : Tree C σ
  entered : Array Nat

/-- Evaluates the node with an index. -/
def evaluateAt (t : Tree C σ) (i : Nat) (context : C) : Outcome C σ :=
  let (status, s) := t.plan.evaluate i { context, cells := t.cells }
  { status, context := s.context, tree := { t with cells := s.cells }, entered := s.entered }

/-- Evaluates the root; a tree without a root fails. -/
def evaluate (t : Tree C σ) (context : C) : Outcome C σ :=
  match t.plan.root with
  | some root => t.evaluateAt root context
  | none => { status := .failure, context, tree := t, entered := #[] }

theorem plan_evaluate (t : Tree C σ) (c : C) : (t.evaluate c).tree.plan = t.plan := by
  unfold evaluate
  split <;> rfl

/-- Resets the node with an index and everything below it. -/
def resetAt (t : Tree C σ) (i : Nat) : Tree C σ := { t with cells := t.plan.resetCells i t.cells }

/-- Resets everything the root leads to. -/
def reset (t : Tree C σ) : Tree C σ :=
  match t.plan.root with
  | some root => t.resetAt root
  | none => t

theorem plan_reset (t : Tree C σ) : t.reset.plan = t.plan := by
  unfold reset
  split <;> rfl

/-- The cell of the node with an index. -/
def cell? (t : Tree C σ) (i : Nat) : Option (Cell σ) := t.cells[i]?

end Tree

end Guardhouse
