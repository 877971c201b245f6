import Guardhouse.Proofs.Plan.Order
import Guardhouse.Proofs.Tree.Calls
import Mathlib.Order.Bounds.Basic

/-!
# The search for a name

Names may be given to as many nodes as one likes. What the search for a name gives is the first of
its carriers in three senses that agree (`Tree.finds_first`): the one with the least index, the
first that a walk down from the root meets, and the one that the loop over a stack stops at.

* An outline numbers its nodes in the order of its lines (`Plan.name?_ofLines`), and a walk down its
  plan meets them in that order (`Plan.pairwise_reachable`). In a list in order the first match is
  the least one (`find?_eq_some_iff_isLeast`).
* The loop keeps its stack with the top at the end and pushes children in reverse, so that the stack
  is what `Arena.search` takes its nodes from, read backwards (`Arena.lookup_reverse`).
-/

namespace Guardhouse

variable {C σ : Type}

/-- Of a list in order, the first that a test accepts is the least. -/
theorem find?_eq_some_iff_isLeast {l : List Nat} (hl : l.Pairwise (· < ·)) (test : Nat → Bool)
    (i : Nat) : l.find? test = some i ↔ IsLeast {j | j ∈ l ∧ test j = true} i := by
  have hleast : ∀ k, l.find? test = some k → IsLeast {j | j ∈ l ∧ test j = true} k := by
    intro k hk
    obtain ⟨htest, before, after, rfl, hbefore⟩ := List.find?_eq_some_iff_append.1 hk
    refine ⟨⟨by simp, htest⟩, ?_⟩
    rintro j ⟨hj, hjtest⟩
    rcases List.mem_append.1 hj with hj | hj
    · exact absurd hjtest (by simpa using hbefore j hj)
    · rcases List.mem_cons.1 hj with rfl | hj
      · exact Nat.le_refl _
      · exact Nat.le_of_lt (List.rel_of_pairwise_cons (List.pairwise_append.1 hl).2.1 hj)
  refine ⟨hleast i, fun hi => ?_⟩
  cases hfind : l.find? test with
  | none => exact absurd hi.1.2 (List.find?_eq_none.1 hfind i hi.1.1)
  | some k => rw [(hleast k hfind).unique hi]

/-! ### Names -/

/-- The name that a line gives to its node. -/
def Line.name? : Line C σ → Option String
  | .composite name _ => some name
  | .decorator name _ => some name
  | .leaf name _ => some name
  | .close => none

namespace Plan

variable {p : Plan C σ}

theorem name?_push (n : Node C σ) (hn : n.children = []) (i : Nat) :
    (p.push n hn).name? i = if i = p.size then some n.name else p.name? i := by
  unfold name?
  rw [node?_push]
  split <;> rfl

/-- A node keeps its name when it gets a child. -/
theorem name?_attach (parent child : Nat) (h : parent < child ∧ child < p.size) (i : Nat) :
    (p.attach parent child h).name? i = p.name? i := by
  unfold name?
  rw [node?_attach]
  split
  · rw [Option.map_map]
    rfl
  · rfl

theorem name?_of_size_le {i : Nat} (h : p.size ≤ i) : p.name? i = none := by
  unfold name? node?
  rw [Array.getElem?_eq_none h]
  rfl

end Plan

namespace Builder

variable {b : Builder C σ}

theorem name?_add (n : Node C σ) (hn : n.children = []) (i : Nat) :
    (b.add n hn).plan.name? i = if i = b.plan.size then some n.name else b.plan.name? i := by
  cases h : b.slots with
  | nil =>
    rw [plan_add_of_nil hn h]
    exact Plan.name?_push n hn i
  | cons slot rest =>
    rw [plan_add_of_cons hn h, Plan.name?_attach]
    exact Plan.name?_push n hn i

/-- A line names the next node, if it writes one, and no other. -/
theorem name?_write (line : Line C σ) (i : Nat) :
    (b.write line).plan.name? i =
      if i = b.plan.size then line.name? else b.plan.name? i := by
  cases line with
  | composite name rule => exact name?_add _ rfl i
  | decorator name rule => exact name?_add _ rfl i
  | leaf name action => exact name?_add _ rfl i
  | close =>
    show b.plan.name? i = _
    split
    · next h => rw [Plan.name?_of_size_le (by omega), Line.name?]
    · rfl

end Builder

namespace Plan

/-- Nodes are numbered in the order of the lines that name them. -/
theorem name?_ofLines (lines : List (Line C σ)) (i : Nat) :
    (ofLines lines).name? i = (lines.filterMap Line.name?)[i]? := by
  induction lines using List.reverseRecOn with
  | nil => exact name?_of_size_le (Nat.zero_le i)
  | append_singleton lines line ih =>
    have hsize : (lines.filterMap Line.name?).length = (ofLines lines).size := by
      rw [size_ofLines, List.length_filterMap_eq_countP]
      congr 1
      funext line
      cases line <;> rfl
    have hlast : (lines ++ [line]).filterMap Line.name? =
        lines.filterMap Line.name? ++ line.name?.toList := by
      rw [List.filterMap_append]
      cases h : line.name? <;> simp [h]
    rw [ofLines_concat, Builder.name?_write, hlast, List.getElem?_append, hsize, ← ih]
    show (if i = (ofLines lines).size then _ else (ofLines lines).name? i) = _
    rcases Nat.lt_trichotomy i (ofLines lines).size with h | rfl | h
    · rw [if_neg (by omega), if_pos h]
    · rw [if_pos rfl, if_neg (Nat.lt_irrefl _), Nat.sub_self]
      cases line.name? <;> rfl
    · -- beyond the new node there is nothing
      rw [if_neg (by omega), if_neg (by omega), name?_of_size_le (by omega)]
      cases line.name? with
      | none => rfl
      | some name => exact (List.getElem?_eq_none (by simp; omega)).symm

/-! ### What the root leads to -/

theorem mem_reachable_ofLines (lines : List (Line C σ)) (i : Nat) :
    i ∈ (ofLines lines).reachable ↔ (ofLines lines).Reaches i := by
  unfold reachable Reaches
  cases hroot : (ofLines lines).root with
  | none => simp
  | some root =>
    have hlt : root < (ofLines lines).size := (tidy_ofLines lines).root_lt root hroot
    simpa using mem_preorder hlt

/-- A walk down from the root meets the nodes in the order of their lines. -/
theorem pairwise_reachable (lines : List (Line C σ)) :
    (ofLines lines).reachable.Pairwise (· < ·) := by
  unfold reachable
  cases (ofLines lines).root with
  | none => exact List.Pairwise.nil
  | some root => exact pairwise_preorder lines root

/-- Nothing is reached that comes before a node written while nothing was open. -/
theorem Reaches.le {lines : List (Line C σ)} {i k : Nat} (h : (ofLines lines).Reaches i)
    (hk : WrittenAtTop lines k) : k ≤ i := by
  obtain ⟨root, hroot, hlead⟩ := h
  have hlt : root < (ofLines lines).size := (tidy_ofLines lines).root_lt root hroot
  calc
    k ≤ root := ((root_ofLines lines root).1 hroot).2 hk
    _ ≤ i := (le_of_mem_preorder ((mem_preorder hlt).2 hlead)).1

end Plan

/-! ### The stack -/

namespace Arena

/-- Pops nodes off a stack, whose top is at its end, until one has the name. The children of any
other node are pushed in reverse, so that the first of them is on top. May pop `limit` nodes. -/
def lookup (a : Arena C σ) (name : String) :
    (limit : Nat) → (stack : List Nat) → Option (Option Nat)
  | limit, stack =>
    match stack.getLast?, limit with
    | none, _ => some none
    | some _, 0 => none
    | some i, limit + 1 =>
      if a.name? i = some name then some (some i)
      else lookup a name limit (stack.dropLast ++ (a.children i).reverse)

/-- Read from its top, the stack is the one that `search` takes its nodes from. -/
theorem lookup_reverse (a : Arena C σ) (name : String) (limit : Nat) (stack : List Nat) :
    a.lookup name limit stack.reverse = (a.search name limit stack).map Prod.fst := by
  induction limit generalizing stack with
  | zero =>
    cases stack with
    | nil => rfl
    | cons i stack =>
      unfold lookup search
      simp
  | succ limit ih =>
    cases stack with
    | nil => rfl
    | cons i stack =>
      have hpush : stack.reverse ++ (a.children i).reverse = (a.children i ++ stack).reverse :=
        List.reverse_append.symm
      rw [List.reverse_cons]
      unfold lookup search
      simp only [List.getLast?_concat, List.dropLast_concat, hpush, ih]
      split
      · rfl
      · rw [Option.map_map]
        rfl

end Arena

namespace Tree

/-- In the tree of an outline, whatever its nodes remember and however often a name is given, the
search for a name gives the carrier with the least index among the nodes that the root leads to,
which is the first one that a walk down from the root meets; it gives none just if the root leads to
no carrier. Nothing is found that comes before a node written while nothing was open, and the loop
over a stack gives the same after popping at most every node once. -/
theorem finds_first (lines : List (Line C σ)) (cells : Vector (Cell σ) (Plan.ofLines lines).size)
    (c : C) (name : String) :
    let t : Tree C σ := ⟨.ofLines lines, cells⟩
    let carriers := {i | t.plan.Reaches i ∧ t.plan.name? i = some name}
    (t.arena c).lookup name t.plan.size t.plan.root.toList = some (t.plan.find? name) ∧
    (∀ i, t.plan.name? i = (lines.filterMap Line.name?)[i]?) ∧
    (∀ i, t.plan.find? name = some i ↔ IsLeast carriers i) ∧
    (∀ i, t.plan.find? name = some i ↔ i ∈ carriers ∧
      ∃ before after, t.plan.reachable = before ++ i :: after ∧ ∀ j ∈ before, j ∉ carriers) ∧
    (t.plan.find? name = none ↔ carriers = ∅) ∧
    (∀ i ∈ t.plan.find? name, i ∈ upperBounds {k | Plan.WrittenAtTop lines k}) := by
  intro t carriers
  have hcarriers : {i | i ∈ t.plan.reachable ∧ (t.plan.name? i == some name) = true} = carriers := by
    ext i
    exact and_congr (Plan.mem_reachable_ofLines lines i) beq_iff_eq
  have hleast : ∀ i, t.plan.find? name = some i ↔ IsLeast carriers i := by
    intro i
    rw [← hcarriers]
    exact find?_eq_some_iff_isLeast (Plan.pairwise_reachable lines) _ i
  refine ⟨?_, Plan.name?_ofLines lines, hleast, fun i => ?_, ?_, ?_⟩
  · have hstack : t.plan.root.toList.reverse = t.plan.root.toList := by cases t.plan.root <;> rfl
    obtain ⟨popped, -, hsearch⟩ := Plan.search_ofLines lines { context := c, cells } [] name
    rw [← hstack, Arena.lookup_reverse, arena, hsearch]
    rfl
  · have hsplit : t.plan.find? name = some i ↔ _ := List.find?_eq_some_iff_append
    constructor
    · intro hfind
      obtain ⟨-, before, after, heq, hbefore⟩ := hsplit.1 hfind
      refine ⟨((hleast i).1 hfind).1, before, after, heq, fun j hj hcarrier => ?_⟩
      exact absurd hcarrier.2 (by simpa using hbefore j hj)
    · rintro ⟨hi, before, after, heq, hbefore⟩
      refine hsplit.2 ⟨beq_iff_eq.2 hi.2, before, after, heq, fun j hj => ?_⟩
      have hreach := (Plan.mem_reachable_ofLines lines j).1 (heq ▸ List.mem_append_left _ hj)
      simpa using fun hname => hbefore j hj ⟨hreach, hname⟩
  · rw [← hcarriers]
    show t.plan.reachable.find? _ = none ↔ _
    rw [List.find?_eq_none, Set.eq_empty_iff_forall_notMem]
    exact forall_congr' fun i => not_and.symm
  · intro i hi k hk
    exact ((hleast i).1 hi).1.1.le hk

/-- The first node has lost the root to the second one. -/
example : (Plan.ofLines [.leaf "Watch" (.act fun c : Unit => (.success, c)),
    .composite "Root" .selector, .decorator "Not" .inverter,
    .leaf "Watch" (.act fun c => (.failure, c)),
    .leaf "Watch" (.act fun c => (.success, c))]).find? "Watch" = some 3 := by
  decide +kernel

end Tree
end Guardhouse
