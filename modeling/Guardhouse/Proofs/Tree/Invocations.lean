import Guardhouse.Proofs.Plan.Order
import Guardhouse.Proofs.Tree.Visits

/-!
# Invocations of leaves

Whatever an evaluation does to the context, and to what leaves remember, is done by the leaves that
it invokes, one after the other (`Plan.leavesAlike_evaluate`). It invokes no leaf twice, and it
invokes them in the order of the arena. Whether a leaf is invoked depends on the nodes above it, but
some of them always evaluate what is below them (`Plan.AlwaysLeads`). The main statement is
`Tree.invokes_in_order`.
-/

namespace Guardhouse

variable {C σ : Type}

theorem Decorator.exhausted_eq_false {rule : Decorator} (h : ∀ count, rule ≠ .repeater count)
    (cell : Cell σ) : rule.exhausted cell = false := by
  cases rule with
  | repeater count => exact absurd rfl (h count)
  | _ => rfl

/-- If nothing stops them, steps note what each of them notes. -/
theorem Composite.exists_notes_subset {α β S : Type} {xs : List α} (step : α → Step S)
    (note : α → S → List β) {stops : Status → Bool} (hstops : ∀ status, stops status = false)
    {x : α} (hx : x ∈ xs) (s : S) :
    ∃ s', note x s' ⊆ notes stops (xs.map fun x => (step x, note x)) s := by
  induction xs generalizing s with
  | nil => exact absurd hx List.not_mem_nil
  | cons y xs ih =>
    simp only [List.map_cons, notes, hstops, Bool.false_eq_true, if_false]
    rcases List.mem_cons.1 hx with rfl | hx
    · exact ⟨s, List.subset_append_left _ _⟩
    · obtain ⟨s', hs'⟩ := ih hx (step y s).2
      exact ⟨s', List.subset_append_of_subset_right _ hs'⟩

namespace Plan

variable {p : Plan C σ} {i j : Nat}

/-! ### Leaves that are always invoked -/

/-- `i` leads to `j` through parallels, and through decorators that are not repeaters. -/
inductive AlwaysLeads (p : Plan C σ) : Nat → Nat → Prop
  | refl (i : Nat) : AlwaysLeads p i i
  | parallel {i c j : Nat} {name : String} {required : UInt64} {cs : List Nat}
      (node : p.node? i = some ⟨name, .composite (.parallel required) cs⟩) (mem : c ∈ cs)
      (next : AlwaysLeads p c j) : AlwaysLeads p i j
  | decorator {i c j : Nat} {name : String} {rule : Decorator}
      (node : p.node? i = some ⟨name, .decorator rule (some c)⟩)
      (rule_ne : ∀ count, rule ≠ .repeater count) (next : AlwaysLeads p c j) : AlwaysLeads p i j

/-- What a node always leads to is visited whenever the node is evaluated. -/
theorem AlwaysLeads.mem_visits (h : p.AlwaysLeads i j) (hj : j < p.size) (caller : Option Nat)
    (s : Evaluation C σ p.size) : j ∈ (p.visits i caller s).map Visit.node := by
  induction h generalizing caller s with
  | refl i =>
    rw [visits_of_lt _ _ hj]
    exact List.mem_cons_self
  | @parallel i c j name required cs hn hc _ ih =>
    have hstops : ∀ status, Composite.stops (.parallel required) status = false := fun _ => rfl
    obtain ⟨s', hs'⟩ := Composite.exists_notes_subset p.evaluate (fun c => p.visits c (some i))
      hstops hc (s.enter i)
    rw [visits_composite _ _ hn]
    exact List.mem_cons_of_mem i (List.map_subset _ hs' (ih hj (some i) s'))
  | @decorator i c j name rule hn hrule _ ih =>
    rw [visits_decorator _ _ (lt_size_of_node? hn) hn, Decorator.exhausted_eq_false hrule]
    exact List.mem_cons_of_mem i (ih hj (some i) (s.enter i))

/-! ### What invocations do -/

/-- The state after a leaf is invoked. Other nodes do nothing by themselves. -/
def invoke (p : Plan C σ) (s : Evaluation C σ p.size) (i : Nat) : Evaluation C σ p.size :=
  match h : p.node? i with
  | some ⟨_, .leaf action⟩ => (action.evaluate i (lt_size_of_node? h) s).2
  | _ => s

/-- Two states with the same context, in which all leaves remember the same. -/
structure LeavesAlike (p : Plan C σ) (s s' : Evaluation C σ p.size) : Prop where
  context : s.context = s'.context
  cells : ∀ j, p.isLeaf j = true → s.cells[j]? = s'.cells[j]?

theorem lt_size_of_isLeaf (h : p.isLeaf i = true) : i < p.size := by
  unfold isLeaf at h
  split at h
  · next hn => exact lt_size_of_node? hn
  · cases h

theorem LeavesAlike.enter {s s' : Evaluation C σ p.size} (h : p.LeavesAlike s s') (i : Nat) :
    p.LeavesAlike s (s'.enter i) :=
  ⟨h.context, h.cells⟩

theorem LeavesAlike.store {s s' : Evaluation C σ p.size} (h : p.LeavesAlike s s') (hi : i < p.size)
    (hleaf : p.isLeaf i = false) (cell : Cell σ) : p.LeavesAlike s (s'.store i hi cell) where
  context := h.context
  cells j hj := by
    have hne : i ≠ j := by
      intro hij
      rw [hij, hj] at hleaf
      cases hleaf
    rw [h.cells j hj]
    exact (Vector.getElem?_set_ne hi hne).symm

/-- A leaf does the same in states that are alike. -/
theorem LeavesAlike.invoke {s s' : Evaluation C σ p.size} (h : p.LeavesAlike s s') {name : String}
    {action : Leaf C σ} (hn : p.node? i = some ⟨name, .leaf action⟩) :
    p.LeavesAlike (p.invoke s i) (p.evaluate i s').2 := by
  have hi := lt_size_of_node? hn
  have hcell := h.cells i (isLeaf_of_node? hn)
  rw [Vector.getElem?_eq_getElem hi, Vector.getElem?_eq_getElem hi] at hcell
  have hcell : s.cells[i] = s'.cells[i] := Option.some.inj hcell
  have hinvoke : p.invoke s i = (action.evaluate i hi s).2 := by
    unfold Plan.invoke
    split
    · next heq =>
      cases hn.symm.trans heq
      rfl
    · next heq => exact absurd hn (heq _ _)
  rw [hinvoke, evaluate_leaf hn, Leaf.evaluate_eq, Leaf.evaluate_eq]
  constructor
  case context =>
    show (action.respond s.cells[i] s.context).2.1 = (action.respond s'.cells[i] s'.context).2.1
    rw [hcell, h.context]
  case cells =>
    intro j hj
    show (s.cells.set i (action.respond s.cells[i] s.context).2.2 hi)[j]? =
      (s'.cells.set i (action.respond s'.cells[i] s'.context).2.2 hi)[j]?
    rw [hcell, h.context, Vector.getElem?_set, Vector.getElem?_set, h.cells j hj]

/-- Only leaves do anything when they are invoked. -/
theorem invoke_of_not_isLeaf (h : p.isLeaf i = false) (s : Evaluation C σ p.size) :
    p.invoke s i = s := by
  unfold invoke
  split
  · next hn =>
    rw [isLeaf_of_node? hn] at h
    cases h
  · rfl

/-- The state after the nodes of visits are invoked one after the other. -/
def replay (p : Plan C σ) (vs : List Visit) (s : Evaluation C σ p.size) : Evaluation C σ p.size :=
  vs.foldl (fun s v => p.invoke s v.node) s

/-- The leaves among visits do what happens to the context and to what leaves remember. -/
def Replays (p : Plan C σ) (s : Evaluation C σ p.size) (vs : List Visit)
    (s' : Evaluation C σ p.size) : Prop :=
  ∀ u, p.LeavesAlike u s → p.LeavesAlike (p.replay vs u) s'

theorem summary_replays : p.Summary p.Replays where
  nil _ _ h := h
  append s s' s'' vs vs' h h' u hu := by
    unfold replay
    rw [List.foldl_append]
    exact h' _ (h u hu)
  leaf i name action hn caller s u hu := hu.invoke hn
  composite i name rule cs hn caller s vs s' h u hu := by
    rw [← invoke_of_not_isLeaf (isLeaf_of_composite hn) u] at hu
    exact h _ (hu.enter i)
  bare i name rule hn caller s u hu := by
    rw [← invoke_of_not_isLeaf (isLeaf_of_decorator hn) u] at hu
    exact hu.enter i
  exhausted i name rule c hi hn caller s hexhausted u hu := by
    rw [← invoke_of_not_isLeaf (isLeaf_of_decorator hn) u] at hu
    exact hu.enter i
  decorator := by
    intro i name rule c hi hn caller s hexhausted e settled h u hu
    rw [← invoke_of_not_isLeaf (isLeaf_of_decorator hn) u] at hu
    exact (h _ (hu.enter i)).store hi (isLeaf_of_decorator hn) settled.2

/-- An evaluation does to the context and to what leaves remember what the leaves that it visits do
when they are invoked one after the other. -/
theorem leavesAlike_evaluate (i : Nat) (caller : Option Nat) (s : Evaluation C σ p.size) :
    p.LeavesAlike ((((p.visits i caller s).map Visit.node).filter p.isLeaf).foldl p.invoke s)
      (p.evaluate i s).2 := by
  have hleaves : (fun s i => if p.isLeaf i = true then p.invoke s i else s) = p.invoke := by
    funext s i
    split
    · rfl
    · next h => exact (invoke_of_not_isLeaf (by simpa using h) s).symm
  rw [List.foldl_filter, hleaves, List.foldl_map]
  exact summary_replays.evaluate i caller s s ⟨rfl, fun _ _ => rfl⟩

end Plan

namespace Tree

/-- However an outline is nested and whatever its nodes remember, evaluating a node invokes leaves
below it in the order of the arena, so none of them twice, and among them all to which the node
leads through parallels and decorators that are not repeaters. Nothing else happens to the context
and to what leaves remember. -/
theorem invokes_in_order (lines : List (Line C σ))
    (cells : Vector (Cell σ) (Plan.ofLines lines).size) (c : C) (i : Nat) :
    let t : Tree C σ := ⟨.ofLines lines, cells⟩
    let o := t.evaluateAt i c
    let invoked := t.plan.leaves o.entered
    invoked.Pairwise (· < ·) ∧
      (∀ j ∈ invoked, t.plan.isLeaf j = true ∧ t.plan.Leads i j) ∧
      (∀ j, t.plan.isLeaf j = true → t.plan.AlwaysLeads i j → invoked.count j = 1) ∧
      let s := invoked.foldl t.plan.invoke { context := c, cells }
      s.context = o.context ∧ ∀ j, t.plan.isLeaf j = true → s.cells[j]? = o.tree.cell? j := by
  intro t o invoked
  let s : Evaluation C σ t.plan.size := { context := c, cells }
  have hinvoked : invoked = ((t.plan.visits i none s).map Visit.node).filter t.plan.isLeaf := by
    show (t.plan.evaluate i s).2.entered.toList.filter t.plan.isLeaf = _
    rw [Plan.toList_entered_evaluate i none s]
    rfl
  have hsublist : invoked.Sublist (t.plan.preorder i) := by
    rw [hinvoked]
    exact List.filter_sublist.trans (Plan.sublist_visits i none s)
  have hpairwise : invoked.Pairwise (· < ·) := (Plan.pairwise_preorder lines i).sublist hsublist
  refine ⟨hpairwise, ?_, ?_, ?_⟩
  · intro j hj
    have hmem := hsublist.subset hj
    have hi : i < t.plan.size := by
      have hle := Plan.le_of_mem_preorder hmem
      omega
    exact ⟨(List.mem_filter.1 hj).2, (Plan.mem_preorder hi).1 hmem⟩
  · intro j hleaf halways
    apply List.count_eq_one_of_mem hpairwise.nodup
    rw [hinvoked, List.mem_filter]
    exact ⟨halways.mem_visits (Plan.lt_size_of_isLeaf hleaf) none s, hleaf⟩
  · have halike := Plan.leavesAlike_evaluate i none s
    rw [← hinvoked] at halike
    exact ⟨halike.context, halike.cells⟩

end Tree
end Guardhouse
