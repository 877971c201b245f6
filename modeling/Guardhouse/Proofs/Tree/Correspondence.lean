import Guardhouse.Proofs.Tree.Calls
import Guardhouse.Proofs.Tree.Expressible
import Guardhouse.Proofs.Tree.Reaction
import Mathlib.Data.List.Flatten
import Mathlib.Logic.Relator

/-!
# The same subtrees in two trees

Two trees may hold the same subtrees at different places, below different nodes. Which node of one
tree is which node of the other is told by listing the nodes of both (`Counterpart`). States of
evaluations correspond if counterparts remember the same, and if the leaves invoked so far are
counterparts. Evaluating the same subtree in both trees takes states that correspond to states that
correspond (`Shape.LiesAt.corresponds`).

Trees that do the same to the subtrees that they share are `Shape.Interchangeable`. To show that two
are, it is enough to evaluate them once (`Shape.interchangeable`).
-/

namespace Guardhouse

variable {C σ : Type}

/-! ### Counterparts -/

/-- Two nodes at the same place of two lists. -/
def Counterpart (nodes nodes' : List Nat) (j k : Nat) : Prop := (j, k) ∈ nodes.zip nodes'

namespace Counterpart

variable {nodes nodes' : List Nat}

/-- Where nothing is listed twice, no node has two counterparts. -/
theorem biUnique (h : nodes.Nodup) (h' : nodes'.Nodup) :
    Relator.BiUnique (Counterpart nodes nodes') := by
  constructor
  · intro i j k hik hjk
    obtain ⟨x, hx, hix⟩ := List.getElem_of_mem hik
    obtain ⟨y, hy, hjy⟩ := List.getElem_of_mem hjk
    rw [List.getElem_zip, Prod.mk.injEq] at hix hjy
    have hxy : x = y := (h'.getElem_inj_iff).1 (hix.2.trans hjy.2.symm)
    subst hxy
    exact hix.1.symm.trans hjy.1
  · intro i j k hij hik
    obtain ⟨x, hx, hix⟩ := List.getElem_of_mem hij
    obtain ⟨y, hy, hiy⟩ := List.getElem_of_mem hik
    rw [List.getElem_zip, Prod.mk.injEq] at hix hiy
    have hxy : x = y := (h.getElem_inj_iff).1 (hix.1.trans hiy.1.symm)
    subst hxy
    exact hix.2.symm.trans hiy.2

/-- Two lists of the same length name the same nodes, one by one. -/
theorem forall₂ (h : nodes.length = nodes'.length) :
    List.Forall₂ (Counterpart nodes nodes') nodes nodes' :=
  List.forall₂_iff_zip.2 ⟨h, fun hjk => hjk⟩

/-- Lists of what is found at nodes are equal if the same is found at counterparts. -/
theorem map_eq_map_iff {β : Type} {f g : Nat → β} (h : nodes.length = nodes'.length) :
    nodes.map f = nodes'.map g ↔ ∀ j k, Counterpart nodes nodes' j k → f j = g k := by
  rw [← List.forall₂_eq_eq_eq, List.forall₂_map_left_iff, List.forall₂_map_right_iff,
    List.forall₂_iff_zip]
  constructor
  · intro hmap j k hjk
    exact hmap.2 hjk
  · intro heq
    exact ⟨h, fun hjk => heq _ _ hjk⟩

end Counterpart

/-! ### Lists side by side -/

section Lists

variable {α β γ δ : Type} {r : γ → δ → Prop}

theorem forall₂_append_inv {a b : List γ} {c d : List δ} (hlen : a.length = c.length)
    (h : List.Forall₂ r (a ++ b) (c ++ d)) : List.Forall₂ r a c ∧ List.Forall₂ r b d := by
  have htake := List.forall₂_take a.length h
  have hdrop := List.forall₂_drop a.length h
  rw [List.take_left, List.take_left' hlen.symm] at htake
  rw [List.drop_left, List.drop_left' hlen.symm] at hdrop
  exact ⟨htake, hdrop⟩

/-- Lists of lists that agree when strung together agree one by one, if their lengths do. -/
theorem forall₂_flatMap_inv {f : α → List γ} {g : β → List δ} {xs : List α} {ys : List β}
    (hlen : List.Forall₂ (fun x y => (f x).length = (g y).length) xs ys)
    (h : List.Forall₂ r (xs.flatMap f) (ys.flatMap g)) :
    List.Forall₂ (fun x y => List.Forall₂ r (f x) (g y)) xs ys := by
  induction hlen with
  | nil => exact .nil
  | cons hxy _ ih =>
    rw [List.flatMap_cons, List.flatMap_cons] at h
    obtain ⟨hhead, htail⟩ := forall₂_append_inv hxy h
    exact .cons hhead (ih htail)

/-- What belongs to the same things, in the same order, belongs together. -/
theorem forall₂_join {P : α → γ → Prop} {Q : α → δ → Prop} {xs : List α} {cs : List γ}
    {ds : List δ} (h : List.Forall₂ P xs cs) (h' : List.Forall₂ Q xs ds) :
    List.Forall₂ (fun c d => ∃ x ∈ xs, P x c ∧ Q x d) cs ds := by
  induction h generalizing ds with
  | nil =>
    cases h'
    exact .nil
  | @cons x c xs cs hc _ ih =>
    cases h' with
    | cons hd h' =>
      refine .cons ⟨x, .head _, hc, hd⟩ ((ih h').imp ?_)
      rintro c d ⟨y, hy, hcd⟩
      exact ⟨y, .tail _ hy, hcd⟩

end Lists

/-! ### States that correspond -/

/-- States of evaluations in two plans, where `m` tells which node of the second plan is which node
of the first: the same context, the same remembered, and the same leaves invoked, in order. -/
structure Evaluation.Corresponds (p q : Plan C σ) (m : Nat → Nat → Prop)
    (s : Evaluation C σ p.size) (s' : Evaluation C σ q.size) : Prop where
  context : s.context = s'.context
  cells : ∀ j k, m j k → s.cells[j]? = s'.cells[k]?
  leaves : List.Forall₂ m (p.leaves s.entered) (q.leaves s'.entered)

namespace Evaluation.Corresponds

variable {p q : Plan C σ} {m : Nat → Nat → Prop} {i k : Nat} {s : Evaluation C σ p.size}
  {s' : Evaluation C σ q.size}

theorem enter_left (h : Corresponds p q m s s') (hi : p.isLeaf i = false) :
    Corresponds p q m (s.enter i) s' where
  context := h.context
  cells := h.cells
  leaves := by
    rw [Plan.leaves_enter_of_inner hi]
    exact h.leaves

theorem enter_right (h : Corresponds p q m s s') (hk : q.isLeaf k = false) :
    Corresponds p q m s (s'.enter k) where
  context := h.context
  cells := h.cells
  leaves := by
    rw [Plan.leaves_enter_of_inner hk]
    exact h.leaves

theorem enter_inner (h : Corresponds p q m s s') (hi : p.isLeaf i = false)
    (hk : q.isLeaf k = false) : Corresponds p q m (s.enter i) (s'.enter k) :=
  (h.enter_left hi).enter_right hk

theorem enter_leaf (h : Corresponds p q m s s') {name name' : String} {action action' : Leaf C σ}
    (hn : p.node? i = some ⟨name, .leaf action⟩) (hn' : q.node? k = some ⟨name', .leaf action'⟩)
    (hm : m i k) : Corresponds p q m (s.enter i) (s'.enter k) where
  context := h.context
  cells := h.cells
  leaves := by
    rw [Plan.leaves_enter hn, Plan.leaves_enter hn']
    exact List.rel_append h.leaves (.cons hm .nil)

theorem withContext (h : Corresponds p q m s s') (c : C) :
    Corresponds p q m { s with context := c } { s' with context := c } :=
  ⟨rfl, h.cells, h.leaves⟩

theorem cell_eq (h : Corresponds p q m s s') (hi : i < p.size) (hk : k < q.size) (hm : m i k) :
    s.cells[i] = s'.cells[k] := by
  have hcells := h.cells i k hm
  rw [Vector.getElem?_eq_getElem hi, Vector.getElem?_eq_getElem hk] at hcells
  exact Option.some.inj hcells

theorem store (h : Corresponds p q m s s') (hunique : Relator.BiUnique m) (hi : i < p.size)
    (hk : k < q.size) (hm : m i k) (x : Cell σ) :
    Corresponds p q m (s.store i hi x) (s'.store k hk x) where
  context := h.context
  cells j l hjl := by
    show (s.cells.set i x hi)[j]? = (s'.cells.set k x hk)[l]?
    rw [Vector.getElem?_set, Vector.getElem?_set]
    by_cases hij : i = j
    · have hkl : k = l := hunique.2 hm (hij ▸ hjl)
      rw [if_pos hij, if_pos hkl]
    · have hkl : k ≠ l := fun hkl => hij (hunique.1 hm (hkl ▸ hjl))
      rw [if_neg hij, if_neg hkl]
      exact h.cells j l hjl
  leaves := h.leaves

end Evaluation.Corresponds

/-! ### Steps that correspond -/

/-- Steps in two plans that give the same status, and take states that correspond to states that
correspond. -/
abbrev Step.Corresponds (p q : Plan C σ) (m : Nat → Nat → Prop)
    (f : Step (Evaluation C σ p.size)) (g : Step (Evaluation C σ q.size)) : Prop :=
  Tracks (fun _ => False) (Evaluation.Corresponds p q m) f g

variable {p q : Plan C σ} {m : Nat → Nat → Prop} {i k : Nat}

namespace Step.Corresponds

variable {f : Step (Evaluation C σ p.size)} {g : Step (Evaluation C σ q.size)}

theorem of_forall
    (h : ∀ s s', Evaluation.Corresponds p q m s s' →
      (f s).1 = (g s').1 ∧ Evaluation.Corresponds p q m (f s).2 (g s').2) :
    Step.Corresponds p q m f g :=
  ⟨fun _ hs => hs, fun s s' hs => .inr (h s s' hs)⟩

theorem apply (h : Step.Corresponds p q m f g) {s : Evaluation C σ p.size}
    {s' : Evaluation C σ q.size} (hs : Evaluation.Corresponds p q m s s') :
    (f s).1 = (g s').1 ∧ Evaluation.Corresponds p q m (f s).2 (g s').2 :=
  (h.step s s' hs).resolve_left id

end Step.Corresponds

/-- The same leaf at counterparts does the same. -/
theorem Leaf.corresponds (hunique : Relator.BiUnique m) (action : Leaf C σ) (hi : i < p.size)
    (hk : k < q.size) (hm : m i k) :
    Step.Corresponds p q m (action.evaluate i hi) (action.evaluate k hk) := by
  apply Step.Corresponds.of_forall
  intro s s' h
  rw [Leaf.evaluate_eq, Leaf.evaluate_eq, h.cell_eq hi hk hm, h.context]
  exact ⟨rfl, (h.withContext _).store hunique hi hk hm _⟩

/-- The same decorator at counterparts does the same if its children do. -/
theorem Decorator.corresponds (hunique : Relator.BiUnique m) (rule : Decorator) (hi : i < p.size)
    (hk : k < q.size) (hm : m i k) {f : Step (Evaluation C σ p.size)}
    {g : Step (Evaluation C σ q.size)} (h : Step.Corresponds p q m f g) :
    Step.Corresponds p q m (rule.evaluate i hi f) (rule.evaluate k hk g) := by
  apply Step.Corresponds.of_forall
  intro s s' hs
  obtain ⟨hstatus, hafter⟩ := h.apply hs
  rw [Decorator.evaluate_eq, Decorator.evaluate_eq, hs.cell_eq hi hk hm]
  split
  · exact ⟨rfl, hs⟩
  · simp only [hstatus, hafter.cell_eq hi hk hm]
    exact ⟨trivial, hafter.store hunique hi hk hm _⟩

/-! ### The same subtree in two plans -/

namespace Shape

theorem length_flatMap_preorder {ts : List (Shape Unit C σ)} {cs : List Nat}
    (h : List.Forall₂ (fun t c => (p.preorder c).length = t.count) ts cs) :
    (cs.flatMap p.preorder).length = countAll ts := by
  induction h with
  | nil =>
    rw [countAll]
    rfl
  | cons hc _ ih => rw [List.flatMap_cons, List.length_append, hc, ih, countAll]

/-- Wherever a shape lies, its root leads to as many nodes as the shape has. -/
theorem LiesAt.length_preorder {t : Shape Unit C σ} (h : t.LiesAt p i) :
    (p.preorder i).length = t.count := by
  induction t generalizing i with
  | leaf _ name action =>
    rw [LiesAt, At] at h
    rw [Plan.preorder_of_lt (Plan.lt_size_of_node? h.1), Plan.children_of_node? h.1, count]
    rfl
  | bare _ name rule =>
    rw [LiesAt, At] at h
    rw [Plan.preorder_of_lt (Plan.lt_size_of_node? h.1), Plan.children_of_node? h.1, count]
    rfl
  | decorator _ name rule child ih =>
    rw [LiesAt, At] at h
    obtain ⟨c, hn, -, hc⟩ := h
    rw [Plan.preorder_of_decorator hn, List.length_cons, ih hc, count]
  | composite _ name rule children ih =>
    rw [LiesAt, At] at h
    obtain ⟨cs, hn, -, hcs⟩ := h
    have hlength := length_flatMap_preorder (hcs.forall₂ fun t ht c _ hat => ih t ht hat)
    rw [Plan.preorder_of_composite hn, List.length_cons, hlength, count]

theorem AllAt.length_preorder {ts : List (Shape Unit C σ)} {cs : List Nat}
    (h : AllAt p (fun _ => ()) ts cs) : (cs.flatMap p.preorder).length = countAll ts :=
  length_flatMap_preorder (h.forall₂ fun _ _ _ _ hat => LiesAt.length_preorder hat)

theorem LiesAt.counterpart {t t' : Shape Unit C σ} (h : t.LiesAt p i) (h' : t'.LiesAt q k)
    (hm : List.Forall₂ m (p.preorder i) (q.preorder k)) : m i k := by
  rw [Plan.preorder_of_lt h.lt_size, Plan.preorder_of_lt h'.lt_size, List.forall₂_cons] at hm
  exact hm.1

/-- The same shapes side by side in two plans, with counterparts below them. -/
theorem AllAt.counterparts {ts : List (Shape Unit C σ)} {cs ds : List Nat}
    (h : AllAt p (fun _ => ()) ts cs) (h' : AllAt q (fun _ => ()) ts ds)
    (hm : List.Forall₂ m (cs.flatMap p.preorder) (ds.flatMap q.preorder)) :
    List.Forall₂ (fun c d => (∃ t ∈ ts, t.LiesAt p c ∧ t.LiesAt q d) ∧
      List.Forall₂ m (p.preorder c) (q.preorder d)) cs ds := by
  have hjoin := forall₂_join (allAt_iff.1 h) (allAt_iff.1 h')
  have hlength : List.Forall₂ (fun c d => (p.preorder c).length = (q.preorder d).length) cs ds := by
    refine hjoin.imp ?_
    rintro c d ⟨t, -, hc, hd⟩
    rw [LiesAt.length_preorder hc, LiesAt.length_preorder hd]
  exact hjoin.mp (fun _ _ hat hm => ⟨hat, hm⟩) (forall₂_flatMap_inv hlength hm)

/-- A shape that lies in two plans does the same in both. -/
theorem LiesAt.corresponds (hunique : Relator.BiUnique m) {t : Shape Unit C σ}
    (h : t.LiesAt p i) (h' : t.LiesAt q k) (hm : List.Forall₂ m (p.preorder i) (q.preorder k)) :
    Step.Corresponds p q m (p.evaluate i) (q.evaluate k) := by
  induction t generalizing i k with
  | leaf _ name action =>
    have hroot := h.counterpart h' hm
    rw [LiesAt, At] at h h'
    obtain ⟨hn, -⟩ := h
    obtain ⟨hn', -⟩ := h'
    apply Step.Corresponds.of_forall
    intro s s' hs
    rw [Plan.evaluate_leaf hn, Plan.evaluate_leaf hn']
    exact (action.corresponds hunique _ _ hroot).apply (hs.enter_leaf hn hn' hroot)
  | bare _ name rule =>
    rw [LiesAt, At] at h h'
    obtain ⟨hn, -⟩ := h
    obtain ⟨hn', -⟩ := h'
    apply Step.Corresponds.of_forall
    intro s s' hs
    rw [Plan.evaluate_bare hn, Plan.evaluate_bare hn']
    exact ⟨rfl, hs.enter_inner (Plan.isLeaf_of_decorator hn) (Plan.isLeaf_of_decorator hn')⟩
  | decorator _ name rule child ih =>
    have hroot := h.counterpart h' hm
    rw [LiesAt, At] at h h'
    obtain ⟨c, hn, -, hc⟩ := h
    obtain ⟨d, hn', -, hd⟩ := h'
    rw [Plan.preorder_of_decorator hn, Plan.preorder_of_decorator hn', List.forall₂_cons] at hm
    apply Step.Corresponds.of_forall
    intro s s' hs
    rw [Plan.evaluate_decorator hn, Plan.evaluate_decorator hn']
    exact (rule.corresponds hunique _ _ hroot (ih hc hd hm.2)).apply
      (hs.enter_inner (Plan.isLeaf_of_decorator hn) (Plan.isLeaf_of_decorator hn'))
  | composite _ name rule children ih =>
    rw [LiesAt, At] at h h'
    obtain ⟨cs, hn, -, hcs⟩ := h
    obtain ⟨ds, hn', -, hds⟩ := h'
    rw [Plan.preorder_of_composite hn, Plan.preorder_of_composite hn', List.forall₂_cons] at hm
    have hchildren : List.Forall₂ (Step.Corresponds p q m) (cs.map p.evaluate)
        (ds.map q.evaluate) := by
      rw [List.forall₂_map_left_iff, List.forall₂_map_right_iff]
      refine (hcs.counterparts hds hm.2).imp ?_
      rintro c d ⟨⟨t, ht, hc, hd⟩, hcd⟩
      exact ih t ht hc hd hcd
    apply Step.Corresponds.of_forall
    intro s s' hs
    rw [Plan.evaluate_composite hn, Plan.evaluate_composite hn']
    exact Step.Corresponds.apply (rule.tracks hchildren)
      (hs.enter_inner (Plan.isLeaf_of_composite hn) (Plan.isLeaf_of_composite hn'))

/-- Shapes that lie in two plans do the same in both, one by one. -/
theorem AllAt.corresponds (hunique : Relator.BiUnique m) {ts : List (Shape Unit C σ)}
    {cs ds : List Nat} (h : AllAt p (fun _ => ()) ts cs) (h' : AllAt q (fun _ => ()) ts ds)
    (hm : List.Forall₂ m (cs.flatMap p.preorder) (ds.flatMap q.preorder)) :
    List.Forall₂ (Step.Corresponds p q m) (cs.map p.evaluate) (ds.map q.evaluate) := by
  rw [List.forall₂_map_left_iff, List.forall₂_map_right_iff]
  refine (h.counterparts h' hm).imp ?_
  rintro c d ⟨⟨t, -, hc, hd⟩, hcd⟩
  exact hc.corresponds hunique hd hcd

end Shape

/-! ### Tick after tick -/

/-- Two trees evaluated side by side, again and again. Each is handed its own context on from one
evaluation to the next, with the same update of the host in front of each. They give the same
statuses and contexts, they invoke counterparts in the same order, and counterparts remember the
same. -/
def Tree.Concur (t t' : Tree C σ) (nodes nodes' : List Nat) (c c' : C) : List (C → C) → Prop
  | [] => True
  | update :: updates =>
    let o := t.evaluate (update c)
    let o' := t'.evaluate (update c')
    o.status = o'.status ∧ o.context = o'.context ∧
      List.Forall₂ (Counterpart nodes nodes') (t.plan.leaves o.entered)
        (t'.plan.leaves o'.entered) ∧
      nodes.map o.tree.cell? = nodes'.map o'.tree.cell? ∧
      o.tree.Concur o'.tree nodes nodes' o.context o'.context updates

/-- Trees whose roots correspond concur, however long they are evaluated. -/
theorem Tree.concur {nodes nodes' : List Nat} (hlength : nodes.length = nodes'.length)
    (hroot : p.root = some i) (hroot' : q.root = some k)
    (h : Step.Corresponds p q (Counterpart nodes nodes') (p.evaluate i) (q.evaluate k))
    {cells : Vector (Cell σ) p.size} {cells' : Vector (Cell σ) q.size}
    (hcells : nodes.map (cells[·]?) = nodes'.map (cells'[·]?)) (c : C) (updates : List (C → C)) :
    (Tree.mk p cells).Concur ⟨q, cells'⟩ nodes nodes' c c updates := by
  induction updates generalizing c cells cells' with
  | nil => rw [Concur]; trivial
  | cons update updates ih =>
    let s : Evaluation C σ p.size := { context := update c, cells }
    let s' : Evaluation C σ q.size := { context := update c, cells := cells' }
    have hs : Evaluation.Corresponds p q (Counterpart nodes nodes') s s' :=
      ⟨rfl, (Counterpart.map_eq_map_iff hlength).1 hcells, .nil⟩
    obtain ⟨hstatus, hafter⟩ := h.apply hs
    have hcells' := (Counterpart.map_eq_map_iff hlength).2 hafter.cells
    have hlater := ih hcells' (p.evaluate i s).2.context
    rw [Concur]
    simp only [evaluate, hroot, hroot']
    refine ⟨hstatus, hafter.context, hafter.leaves, hcells', ?_⟩
    have hcontext : ((Tree.mk q cells').evaluateAt k (update c)).context =
        (p.evaluate i s).2.context := hafter.context.symm
    rw [hcontext]
    exact hlater

/-! ### Parts that two trees share -/

namespace Plan

/-- The nodes `n` levels below the root, in order. -/
def generation : Nat → Plan C σ → List Nat
  | 0, p => p.root.toList
  | n + 1, p => (generation n p).flatMap p.children

/-- What is below the children of nodes is below the nodes. -/
theorem sublist_children (p : Plan C σ) (is : List Nat) :
    ((is.flatMap p.children).flatMap p.preorder).Sublist (is.flatMap p.preorder) := by
  rw [List.flatMap_assoc]
  apply List.Sublist.flatMap_right
  intro i _
  by_cases hi : i < p.size
  · rw [preorder_of_lt hi]
    exact List.sublist_cons_self _ _
  · rw [children_of_size_le (by omega)]
    exact List.nil_sublist _

theorem Orderly.nodup_generation (h : p.Orderly) (n : Nat) :
    ((generation n p).flatMap p.preorder).Nodup := by
  induction n with
  | zero =>
    rw [generation]
    cases p.root with
    | none => exact List.nodup_nil
    | some r => simpa using h.nodup_preorder r
  | succ n ih => exact ih.sublist (sublist_children p (generation n p))

end Plan

namespace Shape

/-- The plan that the outline of a shape builds. -/
abbrev plan (t : Shape Unit C σ) : Plan C σ := .ofLines t.lines

/-- Two shapes share their `parts`: in the plan of the first these are the shapes at `roots`, and in
the plan of the second those at `roots'`. If the nodes of the parts remember the same in both, the
trees concur, whatever the other nodes remember. -/
structure Interchangeable (parts : List (Shape Unit C σ)) (t : Shape Unit C σ)
    (roots : Plan C σ → List Nat) (t' : Shape Unit C σ) (roots' : Plan C σ → List Nat) : Prop where
  lies : AllAt t.plan (fun _ => ()) parts (roots t.plan)
  lies' : AllAt t'.plan (fun _ => ()) parts (roots' t'.plan)
  concur : ∀ (cells : Vector (Cell σ) t.plan.size) (cells' : Vector (Cell σ) t'.plan.size),
    let nodes := (roots t.plan).flatMap t.plan.preorder
    let nodes' := (roots' t'.plan).flatMap t'.plan.preorder
    nodes.map (cells[·]?) = nodes'.map (cells'[·]?) → ∀ c updates,
      (Tree.mk t.plan cells).Concur ⟨t'.plan, cells'⟩ nodes nodes' c c updates

/-- Shapes can be interchanged if their roots do what corresponds, however the nodes of the parts
that they share are matched one to one. -/
theorem interchangeable {parts : List (Shape Unit C σ)} {t t' : Shape Unit C σ}
    {roots roots' : Plan C σ → List Nat}
    (hlies : AllAt t.plan (fun _ => ()) parts (roots t.plan))
    (hlies' : AllAt t'.plan (fun _ => ()) parts (roots' t'.plan))
    (hnodup : ((roots t.plan).flatMap t.plan.preorder).Nodup)
    (hnodup' : ((roots' t'.plan).flatMap t'.plan.preorder).Nodup)
    (h : ∀ m, Relator.BiUnique m →
      List.Forall₂ m ((roots t.plan).flatMap t.plan.preorder)
        ((roots' t'.plan).flatMap t'.plan.preorder) →
      Step.Corresponds t.plan t'.plan m (t.plan.evaluate 0) (t'.plan.evaluate 0)) :
    Interchangeable parts t roots t' roots' := by
  refine ⟨hlies, hlies', ?_⟩
  intro cells cells' nodes nodes' hcells
  have hlength : nodes.length = nodes'.length :=
    hlies.length_preorder.trans hlies'.length_preorder.symm
  have hstep := h _ (Counterpart.biUnique hnodup hnodup') (Counterpart.forall₂ hlength)
  exact Tree.concur hlength t.at_ofLines.1 t'.at_ofLines.1 hstep hcells

end Shape
end Guardhouse
