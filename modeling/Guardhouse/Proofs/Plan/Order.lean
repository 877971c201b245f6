import Guardhouse.Proofs.Plan.Outline

/-!
# The order of a plan

A walk down a plan that an outline builds meets the nodes in the order of the arena, wherever it
begins: below the root, or below a node that the root was taken from (`Plan.pairwise_preorder`).

The invariant is `Builder.Sorted`. A new node has the greatest index of all, so a preorder stays in
order if the new node comes last in it. It does because whatever leads to an open node has it on its
spine.
-/

namespace Guardhouse

variable {C σ : Type}

namespace Plan

variable {p q : Plan C σ} {i j parent : Nat}

/-! ### Growing -/

/-- What leads to an old node did so before. -/
theorem Grown.leads_of_lt (g : Grown p q parent) (h : q.Leads i j) (hj : j < p.size) :
    p.Leads i j := by
  induction h with
  | refl => exact .refl
  | @tail k l _ hl ih =>
    rcases g.mem_children hl with hl | ⟨-, rfl⟩
    · have hlt := lt_of_mem_children hl
      exact (ih (by omega)).tail hl
    · exact absurd hj (Nat.lt_irrefl _)

/-- What leads to the new node leads to its parent, unless it is the new node itself. -/
theorem Grown.leads_new (g : Grown p q parent) (h : q.Leads i p.size) :
    i = p.size ∨ p.Leads i parent := by
  rcases h.cases_tail with rfl | ⟨k, hk, hsize⟩
  · exact .inl rfl
  · rcases g.mem_children hsize with hsize | ⟨rfl, -⟩
    · exact absurd hsize (not_mem_children k)
    · exact .inr (g.leads_of_lt hk g.parent_lt)

/-- A preorder stays in order if the parent of the new node is on the spine of whatever leads to
it. -/
theorem Grown.pairwise_preorder (g : Grown p q parent)
    (hspine : ∀ i, p.Leads i parent → p.Spine i parent)
    (h : ∀ i, (p.preorder i).Pairwise (· < ·)) (i : Nat) : (q.preorder i).Pairwise (· < ·) := by
  rcases Nat.lt_trichotomy i p.size with hi | rfl | hi
  · by_cases hparent : parent ∈ p.preorder i
    · have hs := hspine i ((mem_preorder hi).1 hparent)
      rw [g.preorder_of_spine hs (h i).nodup, List.pairwise_append]
      refine ⟨h i, List.pairwise_singleton _ _, ?_⟩
      intro j hj k hk
      rw [List.mem_singleton.1 hk]
      exact (le_of_mem_preorder hj).2
    · rw [g.preorder_of_not_mem hi hparent]
      exact h i
  · rw [g.preorder_new]
    exact List.pairwise_singleton _ _
  · rw [preorder_of_size_le (by rw [g.size_eq]; omega)]
    exact List.Pairwise.nil

/-- Nodes at the end of an arena that are nobody's children change nothing for the others. -/
theorem preorder_of_children (hsize : p.size ≤ q.size)
    (hchildren : ∀ i, q.children i = p.children i) (hi : i < p.size) :
    q.preorder i = p.preorder i := by
  induction i using p.child_induction with
  | step i ih =>
    rw [preorder_of_lt hi, preorder_of_lt (Nat.lt_of_lt_of_le hi hsize), hchildren]
    congr 1
    apply List.flatMap_congr
    intro c hc
    exact ih c hc (lt_of_mem_children hc).2

end Plan

namespace Builder

variable {b : Builder C σ}

theorem children_add_of_nil {n : Node C σ} (hn : n.children = []) (h : b.slots = []) (i : Nat) :
    (b.add n hn).plan.children i = b.plan.children i := by
  rw [plan_add_of_nil hn h]
  exact Plan.children_push n hn i

/-- The preorders of a plan under construction are in order, and open nodes are on the spine of
whatever leads to them. -/
structure Sorted (b : Builder C σ) : Prop where
  spine : ∀ s ∈ b.slots, ∀ i, b.plan.Leads i s.index → b.plan.Spine i s.index
  preorder : ∀ i, (b.plan.preorder i).Pairwise (· < ·)

namespace Sorted

theorem empty : (Builder.empty : Builder C σ).Sorted where
  spine s h := absurd h List.not_mem_nil
  preorder i := by
    rw [Plan.preorder_of_size_le (Nat.zero_le i)]
    exact List.Pairwise.nil

/-- A node at the top has no parent. -/
theorem add_of_nil (hs : b.Sorted) {n : Node C σ} (hn : n.children = []) (h : b.slots = []) :
    (b.add n hn).Sorted := by
  have hchildren := children_add_of_nil hn h
  have hsize := size_add b n hn
  constructor
  case spine =>
    rw [slots_add_of_nil hn h]
    exact fun s hs => absurd hs List.not_mem_nil
  case preorder =>
    intro i
    rcases Nat.lt_trichotomy i b.plan.size with hi | rfl | hi
    · rw [Plan.preorder_of_children (by omega) hchildren hi]
      exact hs.preorder i
    · rw [Plan.preorder_of_lt (by omega), hchildren, Plan.children_of_size_le (Nat.le_refl _)]
      exact List.pairwise_singleton _ _
    · rw [Plan.preorder_of_size_le (by omega)]
      exact List.Pairwise.nil

/-- A node under an open one comes last below everything that leads to it. -/
theorem add_of_cons (hs : b.Sorted) (hb : b.Tidy) {n : Node C σ} (hn : n.children = [])
    {slot : Slot} {rest : List Slot} (h : b.slots = slot :: rest) : (b.add n hn).Sorted := by
  have g := hb.grown hn h
  constructor
  case spine =>
    intro s hmem i hlead
    obtain ⟨hmem, hcase⟩ := hb.mem_slots_add hn h hmem
    have hlt := b.slots_lt s hmem
    refine g.spine_of_le (hs.spine s hmem i (g.leads_of_lt hlead hlt)) ?_
    rcases hcase with ⟨rfl, -⟩ | hlt <;> omega
  case preorder => exact g.pairwise_preorder (hs.spine slot (by simp [h])) hs.preorder

theorem add (hs : b.Sorted) (hb : b.Tidy) (n : Node C σ) (hn : n.children = []) :
    (b.add n hn).Sorted := by
  cases h : b.slots with
  | nil => exact hs.add_of_nil hn h
  | cons slot rest => exact hs.add_of_cons hb hn h

/-- The node written last is at the end of the spine of whatever leads to it. -/
theorem spine_add (hs : b.Sorted) (hb : b.Tidy) (n : Node C σ) (hn : n.children = []) {i : Nat}
    (hlead : (b.add n hn).plan.Leads i b.plan.size) :
    (b.add n hn).plan.Spine i b.plan.size := by
  cases h : b.slots with
  | nil =>
    rcases hlead.cases_tail with rfl | ⟨k, -, hk⟩
    · exact .refl
    · rw [children_add_of_nil hn h] at hk
      exact absurd hk (Plan.Grown.not_mem_children k)
  | cons slot rest =>
    have g := hb.grown hn h
    rcases g.leads_new hlead with rfl | hlead
    · exact .refl
    · exact g.spine_new (hs.spine slot (by simp [h]) i hlead)

theorem openNode (hs : b.Sorted) (hb : b.Tidy) (n : Node C σ) (hn : n.children = [])
    (single : Bool) : (b.openNode n hn single).Sorted where
  spine s hmem i hlead := by
    rcases List.mem_cons.1 hmem with rfl | hmem
    · exact hs.spine_add hb n hn hlead
    · exact (hs.add hb n hn).spine s hmem i hlead
  preorder := (hs.add hb n hn).preorder

theorem close (hs : b.Sorted) : b.close.Sorted where
  spine s hmem := hs.spine s (List.mem_of_mem_tail hmem)
  preorder := hs.preorder

theorem write (hs : b.Sorted) (hb : b.Tidy) (line : Line C σ) : (b.write line).Sorted := by
  cases line with
  | composite name rule => exact hs.openNode hb _ rfl _
  | decorator name rule => exact hs.openNode hb _ rfl _
  | leaf name action => exact hs.add hb _ rfl
  | close => exact hs.close

theorem writeAll (hs : b.Sorted) (hb : b.Tidy) (lines : List (Line C σ)) :
    (b.writeAll lines).Sorted := by
  induction lines generalizing b with
  | nil => exact hs
  | cons line lines ih => exact ih (hs.write hb line) (hb.write line)

end Sorted
end Builder

/-- In the plan of an outline the nodes below a node are met in the order of the arena. -/
theorem Plan.pairwise_preorder (lines : List (Line C σ)) (i : Nat) :
    ((Plan.ofLines lines).preorder i).Pairwise (· < ·) :=
  (Builder.Sorted.empty.writeAll Builder.Tidy.empty lines).preorder i

end Guardhouse
