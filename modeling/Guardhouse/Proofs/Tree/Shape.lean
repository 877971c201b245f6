import Guardhouse.Tree
import Mathlib.Data.List.Basic

/-!
# Behaviour trees as trees

A `Shape` is a behaviour tree that holds its children instead of their indices. Every node carries a
mark; in a living tree that is the index of the node and what the node remembers (`Mark`).

`Shape.run` evaluates a living tree by recursion on it, and gives the tree with what its nodes
remember afterwards. What the nodes mean is written out here once more, and without the arena:

* a decorator makes a status of the status of its child (`Decorator.verdict`), unless it is a
  repeater, which counts, and leaves its child alone when it has counted enough;
* a composite evaluates children in order until one of them stops it (`Composite.stops`), and comes
  to a verdict on the statuses that it has seen. A selector has the status of the first child that
  did not fail, and fails if there is none; a sequence has that of the first that did not succeed,
  and succeeds if there is none; a parallel is stopped by nothing and compares with its threshold.

The verdict on the children of a composite is a parameter of the evaluation, and
`Composite.verdict` is the one that it should come to. `Plan.unfold` makes a shape of an arena.
-/

namespace Guardhouse

variable {α C σ : Type}

/-- A behaviour tree whose nodes carry marks. A decorator without a child is `bare`. -/
inductive Shape (α C σ : Type) where
  | leaf (mark : α) (name : String) (action : Leaf C σ)
  | bare (mark : α) (name : String) (rule : Decorator)
  | decorator (mark : α) (name : String) (rule : Decorator) (child : Shape α C σ)
  | composite (mark : α) (name : String) (rule : Composite) (children : List (Shape α C σ))

/-- Induction on a shape, with the induction hypothesis for every child of a composite. -/
@[elab_as_elim, induction_eliminator]
theorem Shape.induction {motive : Shape α C σ → Prop}
    (leaf : ∀ mark name action, motive (.leaf mark name action))
    (bare : ∀ mark name rule, motive (.bare mark name rule))
    (decorator : ∀ mark name rule child, motive child → motive (.decorator mark name rule child))
    (composite : ∀ mark name rule children, (∀ t ∈ children, motive t) →
      motive (.composite mark name rule children)) (t : Shape α C σ) : motive t :=
  @Shape.rec α C σ motive (fun ts => ∀ t ∈ ts, motive t) leaf bare decorator composite
    (fun _ h => absurd h List.not_mem_nil)
    (fun _ _ head tail _ h => (List.mem_cons.1 h).elim (fun h => h ▸ head) (tail _)) t

/-! ### Inner nodes by the statuses of their children -/

namespace Composite

/-- Whether a composite evaluates no further child after one with this status. -/
def stops : Composite → Status → Bool
  | selector, status => status != .failure
  | sequence, status => status != .success
  | parallel _, _ => false

/-- The status of a composite that has seen these statuses of its children. A parallel succeeds once
enough children did, and fails once more failed than there are children to spare; that is a whole
number, and negative where more have to succeed than there are. -/
def verdict : Composite → List Status → Status
  | selector, statuses => (statuses.find? (· != .failure)).getD .failure
  | sequence, statuses => (statuses.find? (· != .success)).getD .success
  | parallel required, statuses =>
    if required.toNat ≤ statuses.count .success then .success
    else if (statuses.length : Int) - required.toNat < statuses.count .failure then .failure
    else .running

end Composite

/-- The status of a decorator whose child has been evaluated. -/
def Decorator.verdict : Decorator → Status → Status
  | inverter, .success => .failure
  | inverter, .failure => .success
  | inverter, .running => .running
  | succeeder, _ => .success
  | failer, _ => .failure
  | repeater _, _ => .running
  | repeatUntilFail, .success => .running
  | repeatUntilFail, .failure => .success
  | repeatUntilFail, .running => .running

/-! ### Living trees -/

/-- What a node of a living tree carries: its index, and what it remembers. -/
structure Mark (σ : Type) where
  index : Nat
  cell : Cell σ

namespace Leaf

/-- What a leaf does that remembers `cell`: its status, the new context, what it remembers then. -/
def respond (action : Leaf C σ) (cell : Cell σ) (c : C) : Status × C × Cell σ :=
  match action with
  | .condition test => (if (test c).1 then .success else .failure, (test c).2, cell)
  | .action start act =>
    let (status, c, value) := act c (cell.value start)
    (status, c, .kept value)
  | .perform start act =>
    let (c, value) := act c (cell.value start)
    (.success, c, .kept value)
  | .wait seconds clock =>
    let since := cell.since?.getD (clock c)
    if clock c - since < seconds then (.running, c, .waiting since)
    else (.success, c, .waited since)

end Leaf

namespace Shape

/-- What evaluating a living tree gives. -/
structure Outcome (C σ : Type) where
  status : Status
  context : C
  shape : Shape (Mark σ) C σ
  /-- The leaves invoked, the earliest first. -/
  invoked : List Nat

/-- What evaluating a list of living trees gives. -/
structure Outcomes (C σ : Type) where
  /-- The statuses of those that were evaluated. -/
  statuses : List Status
  context : C
  shapes : List (Shape (Mark σ) C σ)
  invoked : List Nat

mutual

/-- Evaluates a living tree. What a composite makes of the statuses of its children is up to
`judge`. -/
def run (judge : Composite → List Status → Status) : Shape (Mark σ) C σ → C → Outcome C σ
  | .leaf mark name action, c =>
    let (status, c, cell) := action.respond mark.cell c
    ⟨status, c, .leaf ⟨mark.index, cell⟩ name action, [mark.index]⟩
  | .bare mark name rule, c => ⟨.failure, c, .bare mark name rule, []⟩
  | .decorator mark name (.repeater count) child, c =>
    if count ≤ mark.cell.times then
      ⟨.success, c, .decorator mark name (.repeater count) child, []⟩
    else
      let o := run judge child c
      let mark := ⟨mark.index, .repeated (mark.cell.times + 1)⟩
      ⟨.running, o.context, .decorator mark name (.repeater count) o.shape, o.invoked⟩
  | .decorator mark name rule child, c =>
    let o := run judge child c
    ⟨rule.verdict o.status, o.context, .decorator mark name rule o.shape, o.invoked⟩
  | .composite mark name rule children, c =>
    let o := runAll judge children rule.stops c
    ⟨judge rule o.statuses, o.context, .composite mark name rule o.shapes, o.invoked⟩

/-- Evaluates living trees in order until one has a status that stops. -/
def runAll (judge : Composite → List Status → Status) :
    List (Shape (Mark σ) C σ) → (Status → Bool) → C → Outcomes C σ
  | [], _, c => ⟨[], c, [], []⟩
  | t :: ts, stops, c =>
    let o := run judge t c
    if stops o.status then ⟨[o.status], o.context, o.shape :: ts, o.invoked⟩
    else
      let os := runAll judge ts stops o.context
      ⟨o.status :: os.statuses, os.context, o.shape :: os.shapes, o.invoked ++ os.invoked⟩

end

end Shape

/-! ### Unfolding an arena -/

/-- The shape of the node with an index and everything below it. -/
def Plan.unfold (p : Plan C σ) (mark : Nat → α) (i : Nat) (h : i < p.size) : Shape α C σ :=
  match p.nodes[i] with
  | ⟨name, .leaf action⟩ => .leaf (mark i) name action
  | ⟨name, .composite rule _⟩ =>
    .composite (mark i) name rule <|
      (p.children i).attach.map fun ⟨c, hc⟩ => p.unfold mark c (lt_of_mem_children hc).2
  | ⟨name, .decorator rule _⟩ =>
    match (p.children i).attach with
    | ⟨c, hc⟩ :: _ => .decorator (mark i) name rule (p.unfold mark c (lt_of_mem_children hc).2)
    | [] => .bare (mark i) name rule
termination_by p.size - i
decreasing_by
  all_goals
    have := lt_of_mem_children ‹_›
    omega

namespace Tree

/-- The index of a node and what it remembers. -/
def mark (t : Tree C σ) (i : Nat) : Mark σ := ⟨i, (t.cell? i).getD .fresh⟩

/-- The living tree below the root; none if there is no root. -/
def shape? (t : Tree C σ) : Option (Shape (Mark σ) C σ) :=
  t.plan.root.bind fun r => if h : r < t.plan.size then some (t.plan.unfold t.mark r h) else none

end Tree

end Guardhouse
