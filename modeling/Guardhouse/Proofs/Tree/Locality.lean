import Guardhouse.Proofs.Tree.Reset
import Guardhouse.Proofs.Tree.Visits

/-!
# What evaluations and resets change

Only some kinds of nodes remember anything: a repeater its count, a wait when it began, and a leaf
what it keeps for itself (`Node.Kind.Remembers`). An evaluation writes nothing but that, and only
into the nodes that it visits (`Plan.writes_evaluate`); a reset forgets counts and ends waits. So
both leave alone the shape of the tree, and all nodes that are not below the one they are called on
(`Tree.changes_below`).
-/

namespace Guardhouse

variable {C σ : Type}

/-- What a node of a kind may remember once it has been evaluated. No other kinds of nodes remember
anything. -/
inductive Node.Kind.Remembers : Node.Kind C σ → Cell σ → Prop
  | repeated (count : Nat) (child : Option Nat) (times : Nat) :
    Remembers (.decorator (.repeater count) child) (.repeated times)
  | waiting (seconds : Float) (clock : C → Float) (since : Float) :
    Remembers (.leaf (.wait seconds clock)) (.waiting since)
  | waited (seconds : Float) (clock : C → Float) (since : Float) :
    Remembers (.leaf (.wait seconds clock)) (.waited since)
  | action (start : σ) (act : C → σ → Status × C × σ) (value : σ) :
    Remembers (.leaf (.action start act)) (.kept value)
  | perform (start : σ) (act : C → σ → C × σ) (value : σ) :
    Remembers (.leaf (.perform start act)) (.kept value)

theorem Node.Kind.Remembers.reset {kind : Node.Kind C σ} {cell : Cell σ} (h : kind.Remembers cell) :
    cell.reset = .fresh ∨ kind.Remembers cell.reset := by
  cases h with
  | repeated => exact .inl rfl
  | waiting => exact .inr (.waited _ _ _)
  | waited => exact .inr (.waited _ _ _)
  | action => exact .inr (.action _ _ _)
  | perform => exact .inr (.perform _ _ _)

/-- A leaf that does not keep what it remembers as it is may remember what it does then. -/
theorem Leaf.remembers_respond (action : Leaf C σ) (cell : Cell σ) (c : C) :
    (action.respond cell c).2.2 = cell ∨
      (Node.Kind.leaf action).Remembers (action.respond cell c).2.2 := by
  cases action with
  | condition test => exact .inl rfl
  | action start act => exact .inr (.action _ _ _)
  | perform start act => exact .inr (.perform _ _ _)
  | wait seconds clock =>
    right
    simp only [respond]
    split
    · exact .waiting _ _ _
    · exact .waited _ _ _

/-- A decorator that does not keep what it remembers as it is may remember what it does then. -/
theorem Decorator.remembers_settle (rule : Decorator) (child : Option Nat) (status : Status)
    (cell : Cell σ) :
    (rule.settle status cell).2 = cell ∨
      (Node.Kind.decorator rule child : Node.Kind C σ).Remembers (rule.settle status cell).2 := by
  cases rule with
  | repeater count => exact .inr (.repeated _ _ _)
  | _ => exact .inl rfl

namespace Plan

variable {p : Plan C σ} {i j : Nat}

/-! ### Evaluations -/

/-- From `s` to `s'` nothing is written but what the nodes listed may remember. -/
def Writes (p : Plan C σ) (nodes : List Nat) (s s' : Evaluation C σ p.size) : Prop :=
  ∀ j, s'.cells[j]? = s.cells[j]? ∨
    j ∈ nodes ∧ ∃ n cell, p.node? j = some n ∧ s'.cells[j]? = some cell ∧ n.kind.Remembers cell

theorem Writes.refl (nodes : List Nat) (s : Evaluation C σ p.size) : p.Writes nodes s s :=
  fun _ => .inl rfl

theorem Writes.mono {nodes nodes' : List Nat} {s s' : Evaluation C σ p.size}
    (h : p.Writes nodes s s') (hsubset : nodes ⊆ nodes') : p.Writes nodes' s s' := by
  intro j
  exact (h j).imp_right fun ⟨hj, hcell⟩ => ⟨hsubset hj, hcell⟩

theorem Writes.trans {nodes : List Nat} {s s' s'' : Evaluation C σ p.size}
    (h : p.Writes nodes s s') (h' : p.Writes nodes s' s'') : p.Writes nodes s s'' := by
  intro j
  rcases h' j with hsame | hwritten
  · rw [hsame]
    exact h j
  · exact .inr hwritten

/-- A node writes into its own cell. -/
theorem Writes.store {nodes : List Nat} {s s' : Evaluation C σ p.size} (h : p.Writes nodes s s')
    {n : Node C σ} (hi : i < p.size) (hn : p.node? i = some n) (hmem : i ∈ nodes) {cell : Cell σ}
    (hcell : cell = s'.cells[i] ∨ n.kind.Remembers cell) :
    p.Writes nodes s (s'.store i hi cell) := by
  refine h.trans fun j => ?_
  show (s'.cells.set i cell hi)[j]? = _ ∨ _ ∧ ∃ n cell', _ ∧ (s'.cells.set i cell hi)[j]? = _ ∧ _
  by_cases hij : i = j
  · subst hij
    rw [Vector.getElem?_set_self hi, Vector.getElem?_eq_getElem hi]
    rcases hcell with rfl | hcell
    · exact .inl rfl
    · exact .inr ⟨hmem, n, cell, hn, rfl, hcell⟩
  · exact .inl (Vector.getElem?_set_ne hi hij)

/-- An evaluation writes only what the nodes may remember that it visits. -/
theorem writes_evaluate (i : Nat) (caller : Option Nat) (s : Evaluation C σ p.size) :
    p.Writes ((p.visits i caller s).map Visit.node) s (p.evaluate i s).2 := by
  refine Summary.evaluate (R := fun s vs s' => p.Writes (vs.map Visit.node) s s') ?_ i caller s
  constructor
  case nil => exact fun s => .refl _ s
  case append =>
    intro s s' s'' vs vs' h h'
    rw [List.map_append]
    exact (h.mono (List.subset_append_left _ _)).trans (h'.mono (List.subset_append_right _ _))
  case leaf =>
    intro i name action hn caller s
    have hi := lt_size_of_node? hn
    rw [evaluate_leaf hn, Leaf.evaluate_eq]
    have hcell := action.remembers_respond s.cells[i] s.context
    exact Writes.store (.refl _ _) hi hn List.mem_cons_self hcell
  case composite =>
    intro i name rule cs hn caller s vs s' h
    exact h.mono (List.subset_cons_self _ _)
  case bare => exact fun _ _ _ _ _ s => .refl _ s
  case exhausted => exact fun _ _ _ _ _ _ _ s _ => .refl _ s
  case decorator =>
    intro i name rule c hi hn caller s hexhausted e settled h
    have hcell := Decorator.remembers_settle (C := C) rule (some c) e.1 e.2.cells[i]
    exact Writes.store (h.mono (List.subset_cons_self _ _)) hi hn List.mem_cons_self hcell

/-! ### An arena of nodes and cells -/

/-- Whatever the cells hold, the nodes of the arena of a plan are the nodes of the plan. -/
theorem nodes_arena (s : Evaluation C σ p.size) (calls : List (Nat × Nat)) :
    (p.arena s calls).slots.map Prod.fst = p.nodes := by
  apply Array.ext
  · simp [arena, slots]
  · intro j hj hj'
    simp [arena, slots]

end Plan

namespace Tree

/-! ### What a tree comes to remember -/

/-- Every node remembers nothing, or what a node of its kind may. -/
def Fits (t : Tree C σ) : Prop :=
  ∀ j n cell, t.plan.node? j = some n → t.cell? j = some cell →
    cell = .fresh ∨ n.kind.Remembers cell

theorem fits_ofPlan (p : Plan C σ) : (ofPlan p).Fits := by
  intro j n cell hn hcell
  left
  have hj : j < p.size := Plan.lt_size_of_node? hn
  have hfresh : (ofPlan p).cell? j = some .fresh := by
    show (Vector.replicate p.size Cell.fresh)[j]? = _
    rw [Vector.getElem?_replicate, if_pos hj]
  rw [hfresh] at hcell
  exact (Option.some.inj hcell).symm

/-- What an evaluation of a node writes. -/
theorem writes_evaluateAt (t : Tree C σ) (i : Nat) (c : C) (j : Nat) :
    (t.evaluateAt i c).tree.cell? j = t.cell? j ∨
      j ∈ t.plan.preorder i ∧ ∃ n cell, t.plan.node? j = some n ∧
        (t.evaluateAt i c).tree.cell? j = some cell ∧ n.kind.Remembers cell := by
  let s : Evaluation C σ t.plan.size := { context := c, cells := t.cells }
  refine (Plan.writes_evaluate i none s j).imp_right fun ⟨hj, hcell⟩ => ⟨?_, hcell⟩
  exact (Plan.sublist_visits i none s).subset hj

theorem Fits.evaluateAt {t : Tree C σ} (h : t.Fits) (i : Nat) (c : C) :
    (t.evaluateAt i c).tree.Fits := by
  intro j n cell hn hcell
  rcases t.writes_evaluateAt i c j with hsame | ⟨-, m, cell', hm, hcell', hremembers⟩
  · exact h j n cell hn (hsame.symm.trans hcell)
  · cases hn.symm.trans hm
    cases hcell.symm.trans hcell'
    exact .inr hremembers

theorem Fits.resetAt {t : Tree C σ} (h : t.Fits) (i : Nat) : (t.resetAt i).Fits := by
  intro j n cell hn hcell
  rw [cell?_resetAt] at hcell
  split at hcell
  · obtain ⟨old, hold, rfl⟩ := Option.map_eq_some_iff.1 hcell
    rcases h j n old hn hold with rfl | hremembers
    · exact .inl rfl
    · exact hremembers.reset
  · exact h j n cell hn hcell

theorem Fits.call {t : Tree C σ} (h : t.Fits) (call : Call C) : (t.call call).Fits := by
  cases call with
  | evaluate c =>
    show (t.evaluate c).tree.Fits
    unfold evaluate
    split
    · exact h.evaluateAt _ c
    · exact h
  | evaluateAt i c => exact h.evaluateAt i c
  | resetAt i => exact h.resetAt i

theorem Fits.callAll {t : Tree C σ} (h : t.Fits) (calls : List (Call C)) :
    (t.callAll calls).Fits := by
  induction calls generalizing t with
  | nil => exact h
  | cons call calls ih => exact ih (h.call call)

/-! ### Changes -/

theorem evaluateAt_of_size_le (t : Tree C σ) {i : Nat} (hi : t.plan.size ≤ i) (c : C) :
    t.evaluateAt i c = { status := .failure, context := c, tree := t, entered := #[] } := by
  unfold evaluateAt
  rw [Plan.evaluate, dif_neg (by omega)]

theorem resetAt_of_size_le (t : Tree C σ) {i : Nat} (hi : t.plan.size ≤ i) : t.resetAt i = t := by
  unfold resetAt Plan.resetCells
  rw [Plan.preorder_of_size_le hi]
  rfl

/-- A reset changes what a repeater or a wait remembers, and nothing else. -/
theorem Fits.changes_resetAt {t : Tree C σ} (h : t.Fits) {i j : Nat}
    (hchanged : (t.resetAt i).cell? j ≠ t.cell? j) :
    j ∈ t.plan.preorder i ∧ ∃ n cell, t.plan.node? j = some n ∧ t.cell? j = some cell ∧
      n.kind.Remembers cell ∧ (∀ value, cell ≠ .kept value) ∧
        (t.resetAt i).cell? j = some cell.reset := by
  rw [cell?_resetAt] at hchanged ⊢
  by_cases hj : j ∈ t.plan.preorder i
  · have hlt := (Plan.le_of_mem_preorder hj).2
    obtain ⟨n, hn⟩ : ∃ n, t.plan.node? j = some n := ⟨_, Plan.node?_eq_some.2 ⟨hlt, rfl⟩⟩
    have hcell : t.cell? j = some t.cells[j] := Vector.getElem?_eq_getElem hlt
    rw [if_pos hj, hcell, Option.map_some] at hchanged
    refine ⟨hj, n, t.cells[j], hn, hcell, ?_, ?_, by rw [if_pos hj, hcell, Option.map_some]⟩
    · refine (h j n _ hn hcell).resolve_left fun hfresh => ?_
      rw [hfresh] at hchanged
      exact hchanged rfl
    · intro value hkept
      rw [hkept] at hchanged
      exact hchanged rfl
  · rw [if_neg hj] at hchanged
    exact absurd rfl hchanged

/-- However an outline is nested and however its tree was used, evaluating a node and resetting it
leave the plan of the tree as it is, as do programs that hold nodes and cells in one array and write
both back. They change only what nodes remember that are at or below the node: an evaluation changes
counts, waits and what leaves keep, and a reset counts and waits. With an index out of range nothing
changes, and the evaluation fails. -/
theorem changes_below (lines : List (Line C σ)) (calls : List (Call C)) (i : Nat) (c : C) :
    let t := (Tree.ofLines lines).callAll calls
    let o := t.evaluateAt i c
    let depth := t.plan.size - (i + 1)
    (o.tree.plan = t.plan ∧ (t.resetAt i).plan = t.plan) ∧
      ((∃ calls, (t.arena c).evaluate depth i =
          some (o.status, { o.tree.arena o.context with calls })) ∧
        (o.tree.arena o.context).slots.map Prod.fst = (t.arena c).slots.map Prod.fst) ∧
      ((∃ calls, (t.arena c).reset depth i = some ((), { (t.resetAt i).arena c with calls })) ∧
        ((t.resetAt i).arena c).slots.map Prod.fst = (t.arena c).slots.map Prod.fst) ∧
      (∀ j, o.tree.cell? j ≠ t.cell? j → t.plan.Leads i j ∧
        ∃ n cell cell', t.plan.node? j = some n ∧ t.cell? j = some cell ∧
          (cell = .fresh ∨ n.kind.Remembers cell) ∧ o.tree.cell? j = some cell' ∧
            n.kind.Remembers cell') ∧
      (∀ j, (t.resetAt i).cell? j ≠ t.cell? j → t.plan.Leads i j ∧
        ∃ n cell, t.plan.node? j = some n ∧ t.cell? j = some cell ∧ n.kind.Remembers cell ∧
          (∀ value, cell ≠ .kept value) ∧ (t.resetAt i).cell? j = some cell.reset) ∧
      (t.plan.size ≤ i →
        o = { status := .failure, context := c, tree := t, entered := #[] } ∧ t.resetAt i = t) := by
  intro t o depth
  have hfits : t.Fits := (fits_ofPlan _).callAll calls
  have hleads : ∀ j ∈ t.plan.preorder i, t.plan.Leads i j := by
    intro j hj
    have hle := Plan.le_of_mem_preorder hj
    exact (Plan.mem_preorder (by omega)).1 hj
  have hdepth : t.plan.size ≤ i + 1 + depth := by omega
  let s : Evaluation C σ t.plan.size := { context := c, cells := t.cells }
  refine ⟨⟨rfl, rfl⟩, ⟨?_, ?_⟩, ⟨?_, ?_⟩, ?_, ?_, ?_⟩
  · obtain ⟨made, -, hcall⟩ := t.plan.evaluate_ends hdepth s []
    exact ⟨made, hcall⟩
  · exact (Plan.nodes_arena _ _).trans (Plan.nodes_arena _ _).symm
  · obtain ⟨made, -, hcall⟩ := t.plan.reset_ends hdepth s []
    exact ⟨made, hcall⟩
  · exact (Plan.nodes_arena _ _).trans (Plan.nodes_arena _ _).symm
  · intro j hchanged
    obtain ⟨hj, n, cell', hn, hcell', hremembers⟩ :=
      (t.writes_evaluateAt i c j).resolve_left hchanged
    have hlt := Plan.lt_size_of_node? hn
    have hcell : t.cell? j = some t.cells[j] := Vector.getElem?_eq_getElem hlt
    exact ⟨hleads j hj, n, t.cells[j], cell', hn, hcell, hfits j n _ hn hcell, hcell', hremembers⟩
  · intro j hchanged
    obtain ⟨hj, hchange⟩ := hfits.changes_resetAt hchanged
    exact ⟨hleads j hj, hchange⟩
  · intro hi
    exact ⟨t.evaluateAt_of_size_le hi c, t.resetAt_of_size_le hi⟩

end Tree
end Guardhouse
