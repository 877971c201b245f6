import Guardhouse.Proofs.Tree.Reaction

/-!
# Trees after a reset

A tree whose leaves keep nothing for themselves is as good as new after a reset, however it was used
before (`Tree.reset_equals_fresh`). It is not the tree that it was in the beginning: nodes that the
root does not lead to remember what they did, and of a wait the reading at which it began is left
behind. No evaluation of the root ever reads either.

The cells of two trees are `Cell.Alike` where no node can tell them apart. An evaluation takes
states with such cells to states with such cells (`Plan.tracks_evaluate`), and a reset makes every
cell below the root like a fresh one.
-/

namespace Guardhouse

variable {C σ : Type}

/-! ### Cells that no node can tell apart -/

/-- Two cells count as much, and wait since the same reading if they wait. -/
structure Cell.Alike (x y : Cell Unit) : Prop where
  times : x.times = y.times
  since? : x.since? = y.since?

namespace Cell

theorem Alike.refl (x : Cell Unit) : x.Alike x := ⟨rfl, rfl⟩

theorem alike_reset (x : Cell Unit) : x.reset.Alike .fresh := by
  cases x <;> exact ⟨rfl, rfl⟩

@[simp] theorem reset_reset (x : Cell σ) : x.reset.reset = x.reset := by
  cases x <;> rfl

end Cell

/-! ### Evaluations that do the same -/

/-- Two states of an evaluation that agree but for what is remembered away from the node `r`, and
whose cells at and below `r` no node can tell apart. -/
structure Evaluation.Alike (p : Plan C Unit) (r : Nat) (s s' : Evaluation C Unit p.size) :
    Prop where
  context : s.context = s'.context
  entered : s.entered = s'.entered
  cells : ∀ j (hj : j < p.size), p.Leads r j → s.cells[j].Alike s'.cells[j]

namespace Evaluation.Alike

variable {p : Plan C Unit} {r i : Nat} {s s' : Evaluation C Unit p.size}

theorem enter (h : Alike p r s s') : Alike p r (s.enter i) (s'.enter i) :=
  ⟨h.context, congrArg (·.push i) h.entered, h.cells⟩

theorem withContext (h : Alike p r s s') (c : C) :
    Alike p r { s with context := c } { s' with context := c } :=
  ⟨rfl, h.entered, h.cells⟩

theorem store (h : Alike p r s s') (hi : i < p.size) {x y : Cell Unit} (hxy : x.Alike y) :
    Alike p r (s.store i hi x) (s'.store i hi y) := by
  refine ⟨h.context, h.entered, ?_⟩
  intro j hj hlead
  show ((s.cells.set i x hi)[j]).Alike ((s'.cells.set i y hi)[j])
  rw [Vector.getElem_set, Vector.getElem_set]
  split
  · exact hxy
  · exact h.cells j hj hlead

end Evaluation.Alike

namespace Leaf

variable {p : Plan C Unit} {r i : Nat}

/-- What a leaf does depends on the context, and on the reading at which its wait began. -/
theorem tracks_evaluate (action : Leaf C Unit) (hi : i < p.size) (hlead : p.Leads r i) :
    Tracks (fun _ => False) (Evaluation.Alike p r) (action.evaluate i hi)
      (action.evaluate i hi) := by
  refine ⟨fun _ hs => hs, ?_⟩
  intro s s' h
  right
  have hcell := h.cells i hi hlead
  cases action with
  | condition test =>
    simp only [evaluate, h.context]
    exact ⟨trivial, h.withContext _⟩
  | action start act =>
    simp only [evaluate, h.context]
    exact ⟨trivial, (h.withContext _).store hi (.refl _)⟩
  | perform start act =>
    simp only [evaluate, h.context]
    exact ⟨trivial, (h.withContext _).store hi (.refl _)⟩
  | wait seconds clock =>
    simp only [evaluate, h.context, hcell.since?]
    split
    · exact ⟨rfl, h.store hi (.refl _)⟩
    · exact ⟨rfl, h.store hi (.refl _)⟩

end Leaf

namespace Decorator

variable {p : Plan C Unit} {r i : Nat} {child : Step (Evaluation C Unit p.size)}

theorem tracks_evaluate (rule : Decorator) (hi : i < p.size) (hlead : p.Leads r i)
    (h : Tracks (fun _ => False) (Evaluation.Alike p r) child child) :
    Tracks (fun _ => False) (Evaluation.Alike p r) (rule.evaluate i hi child)
      (rule.evaluate i hi child) := by
  refine ⟨fun _ hs => hs, ?_⟩
  intro s s' hs
  right
  obtain ⟨hstatus, hafter⟩ := (h.step s s' hs).resolve_left id
  cases rule with
  | repeater count =>
    simp only [evaluate, (hs.cells i hi hlead).times]
    split
    · exact ⟨rfl, hs⟩
    · rw [(hafter.cells i hi hlead).times]
      exact ⟨rfl, hafter.store hi (.refl _)⟩
  | _ =>
    simp only [evaluate, hstatus]
    exact ⟨trivial, hafter⟩

end Decorator

namespace Plan

/-- Evaluating a node below `r` does the same to cells that no node below `r` can tell apart. -/
theorem tracks_evaluate {p : Plan C Unit} {r i : Nat} (hlead : p.Leads r i) :
    Tracks (fun _ => False) (Evaluation.Alike p r) (p.evaluate i) (p.evaluate i) := by
  induction i using p.child_induction with
  | step i ih =>
    have hchild : ∀ c ∈ p.children i,
        Tracks (fun _ => False) (Evaluation.Alike p r) (p.evaluate c) (p.evaluate c) :=
      fun c hc => ih c hc (hlead.tail hc)
    refine ⟨fun _ hs => hs, ?_⟩
    intro s s' hs
    cases hn : p.node? i with
    | none =>
      -- there is no such node
      have hi : ¬i < p.size := fun hi => by simp [node?, hi] at hn
      rw [evaluate, evaluate, dif_neg hi, dif_neg hi]
      exact .inr ⟨rfl, hs⟩
    | some n =>
      have hi := lt_size_of_node? hn
      rw [children_of_node? hn] at hchild
      obtain ⟨name, kind⟩ := n
      cases kind with
      | leaf action =>
        rw [evaluate_leaf hn, evaluate_leaf hn]
        exact (action.tracks_evaluate hi hlead).step _ _ hs.enter
      | composite rule cs =>
        rw [evaluate_composite hn, evaluate_composite hn]
        have hchildren : List.Forall₂ (Tracks (fun _ => False) (Evaluation.Alike p r))
            (cs.map p.evaluate) (cs.map p.evaluate) := by
          rw [List.forall₂_map_left_iff, List.forall₂_map_right_iff, List.forall₂_same]
          exact hchild
        exact (rule.tracks hchildren).step _ _ hs.enter
      | decorator rule child =>
        cases child with
        | none =>
          rw [evaluate_bare hn, evaluate_bare hn]
          exact .inr ⟨rfl, hs.enter⟩
        | some c =>
          rw [evaluate_decorator hn, evaluate_decorator hn]
          exact (rule.tracks_evaluate hi hlead (hchild c (.head _))).step _ _ hs.enter

/-! ### Resetting -/

variable {p : Plan C σ}

theorem getElem_resetCell {n i j : Nat} (cells : Vector (Cell σ) n) (hj : j < n) :
    (resetCell cells i)[j] = if i = j then cells[j].reset else cells[j] := by
  unfold resetCell
  split
  · rw [Vector.getElem_set]
    split
    · next hij => subst hij; rfl
    · rfl
  · next hi =>
    rw [if_neg]
    intro hij
    exact hi (hij ▸ hj)

theorem getElem_foldl_resetCell {n j : Nat} (is : List Nat) (cells : Vector (Cell σ) n)
    (hj : j < n) :
    (is.foldl resetCell cells)[j] = if j ∈ is then cells[j].reset else cells[j] := by
  induction is generalizing cells with
  | nil => rfl
  | cons i is ih =>
    rw [List.foldl_cons, ih, getElem_resetCell]
    -- a node that is listed twice is not reset any further the second time
    by_cases hij : i = j <;> by_cases hmem : j ∈ is <;> simp [hij, hmem, eq_comm (a := j)]

/-- A reset ends what goes on at and below a node, and leaves the other nodes alone. -/
theorem getElem_resetCells (i : Nat) (cells : Vector (Cell σ) p.size) {j : Nat} (hj : j < p.size) :
    (p.resetCells i cells)[j] = if j ∈ p.preorder i then cells[j].reset else cells[j] :=
  getElem_foldl_resetCell _ _ hj

theorem resetCells_resetCells (i : Nat) (cells : Vector (Cell σ) p.size) :
    p.resetCells i (p.resetCells i cells) = p.resetCells i cells := by
  apply Vector.ext
  intro j hj
  rw [getElem_resetCells, getElem_resetCells]
  split
  · exact Cell.reset_reset _
  · rfl

end Plan

/-! ### Using a tree -/

namespace Tree

/-- A call that changes what the nodes of a tree remember. -/
inductive Call (C : Type) where
  | evaluate (context : C)
  | evaluateAt (i : Nat) (context : C)
  | resetAt (i : Nat)

/-- The tree after a call. -/
def call (t : Tree C σ) : Call C → Tree C σ
  | .evaluate c => (t.evaluate c).tree
  | .evaluateAt i c => (t.evaluateAt i c).tree
  | .resetAt i => t.resetAt i

/-- The tree after calls, the first of them first. -/
def callAll (t : Tree C σ) (calls : List (Call C)) : Tree C σ := calls.foldl call t

/-- What shows when the root is evaluated again and again: each time the status, the context and the
leaves invoked. The context is handed on from one evaluation to the next, with an update of the host
in front of each. -/
def observe (t : Tree C σ) (c : C) : List (C → C) → List (Status × C × List Nat)
  | [] => []
  | update :: updates =>
    let o := t.evaluate (update c)
    (o.status, o.context, t.plan.leaves o.entered) :: o.tree.observe o.context updates

theorem plan_callAll (t : Tree C σ) (calls : List (Call C)) : (t.callAll calls).plan = t.plan := by
  induction calls generalizing t with
  | nil => rfl
  | cons call calls ih =>
    have hcall : (t.call call).plan = t.plan := by
      cases call with
      | evaluate c => exact t.plan_evaluate c
      | evaluateAt i c => rfl
      | resetAt i => rfl
    exact (ih _).trans hcall

theorem reset_of_root {t : Tree C σ} {r : Nat} (h : t.plan.root = some r) :
    t.reset = t.resetAt r := by
  rw [reset, h]

theorem reset_of_rootless {t : Tree C σ} (h : t.plan.root = none) : t.reset = t := by
  rw [reset, h]

theorem cell?_resetAt (t : Tree C σ) (i j : Nat) :
    (t.resetAt i).cell? j =
      if j ∈ t.plan.preorder i then (t.cell? j).map Cell.reset else t.cell? j := by
  show (t.plan.resetCells i t.cells)[j]? = if _ then (t.cells[j]?).map _ else t.cells[j]?
  by_cases hj : j < t.plan.size
  · rw [Vector.getElem?_eq_getElem hj, Vector.getElem?_eq_getElem hj,
      Plan.getElem_resetCells _ _ hj]
    split <;> rfl
  · simp [hj]

theorem cell?_reset (t : Tree C σ) (j : Nat) :
    t.reset.cell? j =
      if j ∈ t.plan.reachable then (t.cell? j).map Cell.reset else t.cell? j := by
  cases hroot : t.plan.root with
  | none =>
    rw [reset_of_rootless hroot, Plan.reachable, hroot]
    rfl
  | some r =>
    rw [reset_of_root hroot, Plan.reachable, hroot]
    exact t.cell?_resetAt r j

theorem reset_reset (t : Tree C σ) : t.reset.reset = t.reset := by
  cases hroot : t.plan.root with
  | none => rw [reset_of_rootless hroot, reset_of_rootless hroot]
  | some r =>
    have hagain : (t.resetAt r).plan.root = some r := hroot
    rw [reset_of_root hroot, reset_of_root hagain]
    exact congrArg (Tree.mk t.plan) (Plan.resetCells_resetCells r t.cells)

/-- Trees of one plan show the same forever if no node below the root can tell their cells apart. -/
theorem observe_eq {p : Plan C Unit} {cells cells' : Vector (Cell Unit) p.size}
    (h : ∀ r, p.root = some r → ∀ j (hj : j < p.size), p.Leads r j → cells[j].Alike cells'[j])
    (c : C) (updates : List (C → C)) :
    (Tree.mk p cells).observe c updates = (Tree.mk p cells').observe c updates := by
  induction updates generalizing c cells cells' with
  | nil => rfl
  | cons update updates ih =>
    rw [observe, observe]
    cases hroot : p.root with
    | none =>
      have hevaluate (cells : Vector (Cell Unit) p.size) :
          (Tree.mk p cells).evaluate (update c) = ⟨.failure, update c, ⟨p, cells⟩, #[]⟩ := by
        simp only [evaluate, hroot]
      rw [hevaluate, hevaluate]
      simp only [ih h]
    | some r =>
      have hevaluate (cells : Vector (Cell Unit) p.size) :
          (Tree.mk p cells).evaluate (update c) = (Tree.mk p cells).evaluateAt r (update c) := by
        simp only [evaluate, hroot]
      let s : Evaluation C Unit p.size := { context := update c, cells }
      let s' : Evaluation C Unit p.size := { context := update c, cells := cells' }
      obtain ⟨hstatus, hafter⟩ :=
        ((Plan.tracks_evaluate .refl).step s s' ⟨rfl, rfl, h r hroot⟩).resolve_left id
      have hlater (c : C) :
          (Tree.mk p (p.evaluate r s).2.cells).observe c updates =
            (Tree.mk p (p.evaluate r s').2.cells).observe c updates := by
        refine ih ?_ c
        intro r' hr'
        cases hroot.symm.trans hr'
        exact hafter.cells
      rw [hevaluate, hevaluate]
      simp only [evaluateAt, s, s'] at hstatus hafter hlater ⊢
      rw [hstatus, hafter.context, hafter.entered, hlater]

/-- After a reset a tree shows the same forever as it does before it was ever used. -/
theorem observe_reset {t : Tree C Unit} (ht : ∀ r, t.plan.root = some r → r < t.plan.size) (c : C)
    (updates : List (C → C)) : t.reset.observe c updates = (ofPlan t.plan).observe c updates := by
  obtain ⟨p, cells⟩ := t
  cases hroot : p.root with
  | none =>
    rw [reset_of_rootless hroot]
    refine observe_eq ?_ c updates
    intro r hr
    exact nomatch hroot.symm.trans hr
  | some r =>
    rw [reset_of_root hroot]
    refine observe_eq ?_ c updates
    intro r' hr' j hj hlead
    have hmem : j ∈ p.preorder r' := (Plan.mem_preorder (ht r' hr')).2 hlead
    cases hroot.symm.trans hr'
    show ((p.resetCells r cells)[j]).Alike ((Vector.replicate p.size Cell.fresh)[j])
    rw [Plan.getElem_resetCells _ _ hj, if_pos hmem, Vector.getElem_replicate]
    exact Cell.alike_reset _

/-- However a tree was used whose leaves keep nothing for themselves, after a reset it shows the
same forever as the tree that its outline builds anew, from every context. A second reset does
nothing. A reset ends what goes on at the nodes that the root leads to, as `Cell.reset` says, and
leaves all others alone. -/
theorem reset_equals_fresh (lines : List (Line C Unit)) (calls : List (Call C)) :
    let t := (Tree.ofLines lines).callAll calls
    (∀ c updates, t.reset.observe c updates = (Tree.ofLines lines).observe c updates) ∧
      t.reset.reset = t.reset ∧
      ∀ j, t.reset.cell? j =
        if j ∈ t.plan.reachable then (t.cell? j).map Cell.reset else t.cell? j := by
  intro t
  have hplan : t.plan = .ofLines lines := plan_callAll _ _
  refine ⟨?_, t.reset_reset, t.cell?_reset⟩
  intro c updates
  rw [observe_reset _ c updates, hplan]
  · rfl
  · rw [hplan]
    exact (Plan.tidy_ofLines lines).root_lt

end Tree
end Guardhouse
