import Guardhouse.Tree.Plan
import Mathlib.Data.List.Nodup
import Mathlib.Logic.Relation

/-!
# Walking down a plan

A plan is an arena, but every walk down it goes to greater indices, so statements about everything
below a node are proved by `child_induction`: from the children of a node to the node itself.

`preorder` lists exactly the nodes that a node leads to (`mem_preorder`). What is listed last is
reached by taking the last child again and again; that walk is the `Spine` of a node, and the one
place where a plan grows: a node put under the spine comes last in the preorder
(`Grown.preorder_of_spine`), and a node put elsewhere changes nothing (`Grown.preorder_of_not_mem`).
-/

namespace Guardhouse
namespace Plan

variable {C σ : Type} {p : Plan C σ} {i j : Nat}

/-! ### Children -/

theorem children_of_size_le (h : p.size ≤ i) : p.children i = [] := by
  unfold children node?
  rw [Array.getElem?_eq_none h]
  rfl

theorem children_of_node? {n : Node C σ} (h : p.node? i = some n) : p.children i = n.children := by
  unfold children
  rw [h]
  rfl

theorem lt_size_of_node? {n : Node C σ} (h : p.node? i = some n) : i < p.size :=
  (Array.getElem?_eq_some_iff.1 h).1

/-- A property of a node that follows from the same property of its children holds everywhere. -/
theorem child_induction {motive : Nat → Prop}
    (step : ∀ i, (∀ c ∈ p.children i, motive c) → motive i) (i : Nat) : motive i := by
  induction hk : p.size - i using Nat.strongRecOn generalizing i with
  | _ k ih =>
    apply step
    intro c hc
    have hlt := lt_of_mem_children hc
    exact ih (p.size - c) (by omega) c rfl

/-! ### What a node leads to -/

theorem preorder_of_lt (h : i < p.size) :
    p.preorder i = i :: (p.children i).flatMap p.preorder := by
  rw [preorder, if_pos h]
  simp [List.flatMap_subtype]

theorem preorder_of_size_le (h : p.size ≤ i) : p.preorder i = [] := by
  rw [preorder, if_neg (by omega)]

/-- A node leads to itself, to its children, and to whatever they lead to. -/
def Leads (p : Plan C σ) : Nat → Nat → Prop :=
  Relation.ReflTransGen fun i c => c ∈ p.children i

/-- The root leads to a node. -/
def Reaches (p : Plan C σ) (i : Nat) : Prop := ∃ root, p.root = some root ∧ p.Leads root i

theorem le_of_mem_preorder (h : j ∈ p.preorder i) : i ≤ j ∧ j < p.size := by
  induction i using p.child_induction generalizing j with
  | step i ih =>
    by_cases hi : i < p.size
    · rw [preorder_of_lt hi] at h
      rcases List.mem_cons.1 h with rfl | h
      · exact ⟨Nat.le_refl _, hi⟩
      · obtain ⟨c, hc, hj⟩ := List.mem_flatMap.1 h
        have hlt := lt_of_mem_children hc
        have hle := ih c hc hj
        omega
    · rw [preorder_of_size_le (by omega)] at h
      cases h

theorem self_mem_preorder (h : i < p.size) : i ∈ p.preorder i := by
  rw [preorder_of_lt h]
  exact List.mem_cons_self

/-- The preorder of a node lists exactly the nodes that it leads to. -/
theorem mem_preorder (hi : i < p.size) : j ∈ p.preorder i ↔ p.Leads i j := by
  induction i using p.child_induction with
  | step i ih =>
    rw [preorder_of_lt hi, List.mem_cons, List.mem_flatMap]
    unfold Leads at ih ⊢
    rw [Relation.ReflTransGen.cases_head_iff, eq_comm]
    refine or_congr Iff.rfl (exists_congr fun c => and_congr_right fun hc => ?_)
    exact ih c hc (lt_of_mem_children hc).2

/-- Children of a node whose preorder lists nothing twice have nothing in common. -/
theorem nodup_children_preorder (hi : i < p.size) (hd : (p.preorder i).Nodup) :
    (∀ c ∈ p.children i, (p.preorder c).Nodup) ∧
      (p.children i).Pairwise (fun c d => (p.preorder c).Disjoint (p.preorder d)) := by
  rw [preorder_of_lt hi, List.nodup_cons] at hd
  exact List.nodup_flatMap.1 hd.2

/-! ### The spine -/

/-- `j` is reached from `i` by taking the last child again and again. -/
def Spine (p : Plan C σ) : Nat → Nat → Prop :=
  Relation.ReflTransGen fun i c => (p.children i).getLast? = some c

theorem Spine.le (h : p.Spine i j) : i ≤ j := by
  induction h with
  | refl => exact Nat.le_refl _
  | tail _ hlast ih =>
    have hlt := lt_of_mem_children (List.mem_of_getLast? hlast)
    omega

theorem Spine.leads (h : p.Spine i j) : p.Leads i j :=
  Relation.ReflTransGen.mono (fun _ _ hlast => List.mem_of_getLast? hlast) _ _ h

/-! ### Growing -/

/-- `q` is `p` with one more node, which is the last child of `parent`. -/
structure Grown (p q : Plan C σ) (parent : Nat) : Prop where
  parent_lt : parent < p.size
  size_eq : q.size = p.size + 1
  children_parent : q.children parent = p.children parent ++ [p.size]
  children_of_ne : ∀ i, i ≠ parent → q.children i = p.children i

namespace Grown

variable {q : Plan C σ} {parent : Nat}

/-- The new node is nobody's child yet. -/
theorem not_mem_children (i : Nat) : p.size ∉ p.children i := by
  intro hi
  have hlt := lt_of_mem_children hi
  omega

theorem mem_children (g : Grown p q parent) {c : Nat} (hc : c ∈ q.children i) :
    c ∈ p.children i ∨ i = parent ∧ c = p.size := by
  by_cases hi : i = parent
  · rw [hi, g.children_parent, List.mem_append, List.mem_singleton, ← hi] at hc
    exact hc.imp_right fun hc => ⟨hi, hc⟩
  · rw [g.children_of_ne i hi] at hc
    exact .inl hc

theorem one_parent (g : Grown p q parent)
    (h : ∀ i j c, c ∈ p.children i → c ∈ p.children j → i = j) (i j c : Nat)
    (hi : c ∈ q.children i) (hj : c ∈ q.children j) : i = j := by
  rcases g.mem_children hi with hi | ⟨rfl, rfl⟩ <;> rcases g.mem_children hj with hj | ⟨rfl, hc⟩
  · exact h i j c hi hj
  · exact absurd (hc ▸ hi) (not_mem_children i)
  · exact absurd hj (not_mem_children j)
  · rfl

theorem nodup_children (g : Grown p q parent) (h : ∀ i, (p.children i).Nodup) (i : Nat) :
    (q.children i).Nodup := by
  by_cases hi : i = parent
  · rw [hi, g.children_parent]
    simpa using (h parent).concat (not_mem_children parent)
  · rw [g.children_of_ne i hi]
    exact h i

theorem preorder_new (g : Grown p q parent) : q.preorder p.size = [p.size] := by
  have hlt := g.parent_lt
  rw [preorder_of_lt (by rw [g.size_eq]; omega), g.children_of_ne _ (by omega),
    children_of_size_le (Nat.le_refl _)]
  rfl

/-- Nothing changes for a node that does not lead to the new one. -/
theorem preorder_of_not_mem (g : Grown p q parent) (hi : i < p.size)
    (hp : parent ∉ p.preorder i) : q.preorder i = p.preorder i := by
  induction i using p.child_induction with
  | step i ih =>
    have hiq : i < q.size := by rw [g.size_eq]; omega
    rw [preorder_of_lt hi] at hp ⊢
    rw [preorder_of_lt hiq]
    obtain ⟨hne, hp⟩ := not_or.1 (mt List.mem_cons.2 hp)
    rw [g.children_of_ne i (Ne.symm hne)]
    congr 1
    apply List.flatMap_congr
    intro c hc
    exact ih c hc (lt_of_mem_children hc).2 fun h => hp (List.mem_flatMap.2 ⟨c, hc, h⟩)

/-- What grows on the spine of a node comes last in its preorder. -/
theorem preorder_of_spine (g : Grown p q parent) (hs : p.Spine i parent)
    (hd : (p.preorder i).Nodup) : q.preorder i = p.preorder i ++ [p.size] := by
  have hlt := g.parent_lt
  induction hs using Relation.ReflTransGen.head_induction_on with
  | refl =>
    -- the children of the parent come after it, so that none of them leads to it
    have hold : ∀ c ∈ p.children parent, q.preorder c = p.preorder c := by
      intro c hc
      have hc' := lt_of_mem_children hc
      refine g.preorder_of_not_mem hc'.2 fun h => ?_
      have hle := le_of_mem_preorder h
      omega
    rw [preorder_of_lt (by rw [g.size_eq]; omega), g.children_parent, preorder_of_lt hlt,
      List.flatMap_append, List.flatMap_congr hold]
    simp [g.preorder_new]
  | @head i c hlast hs ih =>
    have hc := lt_of_mem_children (List.mem_of_getLast? hlast)
    have hi : i < p.size := by omega
    obtain ⟨hdc, hpair⟩ := nodup_children_preorder hi hd
    obtain ⟨init, hinit⟩ := List.getLast?_eq_some_iff.1 hlast
    have hmem : parent ∈ p.preorder c := (mem_preorder hc.2).2 (Spine.leads hs)
    have hne : i ≠ parent := by
      have hle := Spine.le hs
      omega
    -- the spine runs through the last child, so the others do not lead to the parent
    have hold : ∀ d ∈ init, q.preorder d = p.preorder d := by
      intro d hd
      have hdlt : d ∈ p.children i := by rw [hinit]; exact List.mem_append_left _ hd
      rw [hinit, List.pairwise_append] at hpair
      refine g.preorder_of_not_mem (lt_of_mem_children hdlt).2 fun h => ?_
      exact hpair.2.2 d hd c (List.mem_singleton.2 rfl) h hmem
    rw [preorder_of_lt (by rw [g.size_eq]; omega), g.children_of_ne i hne, preorder_of_lt hi,
      hinit, List.flatMap_append, List.flatMap_append, List.flatMap_congr hold]
    simp [ih (hdc c (List.mem_of_getLast? hlast))]

theorem spine_of_le (g : Grown p q parent) (hs : p.Spine i j) (hj : j ≤ parent) :
    q.Spine i j := by
  induction hs with
  | refl => exact .refl
  | @tail k l hs hlast ih =>
    have hlt := lt_of_mem_children (List.mem_of_getLast? hlast)
    refine .tail (ih (by omega)) ?_
    rw [g.children_of_ne k (by omega)]
    exact hlast

theorem spine_new (g : Grown p q parent) (hs : p.Spine i parent) : q.Spine i p.size := by
  refine .tail (g.spine_of_le hs (Nat.le_refl _)) ?_
  rw [g.children_parent, List.getLast?_concat]

end Grown

end Plan
end Guardhouse
