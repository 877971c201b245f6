import Guardhouse.Proofs.Tree.Calls

/-!
# Visits

In the course of evaluating a node other nodes are evaluated for it. `Plan.visits` lists these
evaluations: which node, for which other node, and with what status. The nodes listed are those that
the evaluation notes as entered (`Plan.toList_entered_evaluate`).

What an evaluation does is told step by step along its visits: a relation between a state, the
visits from there and the state after them holds of every evaluation if it holds of the single
steps (`Plan.Summary.evaluate`).
-/

namespace Guardhouse

variable {C σ : Type}

/-- An evaluation of a node in the course of another one. -/
structure Visit where
  node : Nat
  /-- The node that it is evaluated for; none if that is the host. -/
  caller : Option Nat
  status : Status
  deriving DecidableEq, Repr

namespace Composite

variable {S β : Type}

/-- What steps note that are taken until one has a status that stops. -/
def notes (stops : Status → Bool) : List (Step S × (S → List β)) → S → List β
  | [], _ => []
  | (step, note) :: rest, s =>
    note s ++ if stops (step s).1 then [] else notes stops rest (step s).2

/-- What relates the state before each step to what it notes and to the state after it relates the
state before all steps to all notes and to the last state. -/
theorem relates_notes {R : S → List β → S → Prop} (nil : ∀ s, R s [] s)
    (append : ∀ s s' s'' vs vs', R s vs s' → R s' vs' s'' → R s (vs ++ vs') s'')
    (stops : Status → Bool) {steps : List (Step S × (S → List β))}
    (h : ∀ x ∈ steps, ∀ s, R s (x.2 s) (x.1 s).2) (s : S) :
    R s (notes stops steps s) (collect stops (steps.map Prod.fst) s).2 := by
  induction steps generalizing s with
  | nil => exact nil s
  | cons x rest ih =>
    have hx := h x (.head _) s
    simp only [notes, List.map_cons, collect]
    split
    · rw [List.append_nil]
      exact hx
    · exact append _ _ _ _ _ hx (ih (fun y hy => h y (.tail _ hy)) _)

variable {α : Type} {xs : List α} {step : α → Step S} {note : α → S → List β}

theorem mem_notes {stops : Status → Bool} {s : S} {b : β}
    (h : b ∈ notes stops (xs.map fun x => (step x, note x)) s) : ∃ x ∈ xs, ∃ s, b ∈ note x s := by
  induction xs generalizing s with
  | nil => exact absurd h List.not_mem_nil
  | cons x xs ih =>
    simp only [List.map_cons, notes, List.mem_append] at h
    rcases h with h | h
    · exact ⟨x, .head _, s, h⟩
    · split at h
      · exact absurd h List.not_mem_nil
      · obtain ⟨y, hy, hb⟩ := ih h
        exact ⟨y, .tail _ hy, hb⟩

/-- Steps that note things of a list in its order note things of all lists in their order. -/
theorem sublist_notes {γ : Type} (stops : Status → Bool) {f : β → γ} {l : α → List γ}
    (h : ∀ x ∈ xs, ∀ s, ((note x s).map f).Sublist (l x)) (s : S) :
    ((notes stops (xs.map fun x => (step x, note x)) s).map f).Sublist (xs.flatMap l) := by
  induction xs generalizing s with
  | nil => exact List.nil_sublist _
  | cons x xs ih =>
    simp only [List.map_cons, notes, List.map_append, List.flatMap_cons]
    refine (h x (.head _) s).append ?_
    split
    · exact List.nil_sublist _
    · exact ih (fun y hy => h y (.tail _ hy)) _

end Composite

namespace Plan

variable {p : Plan C σ} {i : Nat} {name : String}

/-- The evaluations of nodes in the course of evaluating the node with an index, the earliest
first. A repeater that is exhausted and a decorator without a child evaluate nothing else, and a
composite evaluates no child after one that stops it. -/
def visits (p : Plan C σ) (i : Nat) (caller : Option Nat) (s : Evaluation C σ p.size) :
    List Visit :=
  if h : i < p.size then
    ⟨i, caller, (p.evaluate i s).1⟩ ::
      match p.nodes[i].kind with
      | .leaf _ => []
      | .composite rule _ =>
        Composite.notes rule.stops
          ((p.children i).attach.map fun ⟨c, _⟩ => (p.evaluate c, p.visits c (some i))) (s.enter i)
      | .decorator rule _ =>
        match (p.children i).attach with
        | ⟨c, _⟩ :: _ => if rule.exhausted s.cells[i] then [] else p.visits c (some i) (s.enter i)
        | [] => []
  else []
termination_by p.size - i
decreasing_by
  all_goals
    have := lt_of_mem_children ‹_›
    omega

/-! ### One node at a time -/

variable (caller : Option Nat) (s : Evaluation C σ p.size)

theorem visits_of_size_le (h : p.size ≤ i) : p.visits i caller s = [] := by
  rw [visits, dif_neg (by omega)]

theorem visits_leaf {action : Leaf C σ} (h : p.node? i = some ⟨name, .leaf action⟩) :
    p.visits i caller s = [⟨i, caller, (p.evaluate i s).1⟩] := by
  obtain ⟨hi, hn⟩ := node?_eq_some.1 h
  rw [visits, dif_pos hi]
  simp only [hn]

theorem visits_composite {rule : Composite} {cs : List Nat}
    (h : p.node? i = some ⟨name, .composite rule cs⟩) :
    p.visits i caller s = ⟨i, caller, (p.evaluate i s).1⟩ ::
      Composite.notes rule.stops (cs.map fun c => (p.evaluate c, p.visits c (some i)))
        (s.enter i) := by
  obtain ⟨hi, hn⟩ := node?_eq_some.1 h
  have hc : p.children i = cs := children_of_node? h
  rw [visits, dif_pos hi]
  simp only [hn, List.map_subtype, List.unattach_attach, hc]

theorem visits_bare {rule : Decorator} (h : p.node? i = some ⟨name, .decorator rule none⟩) :
    p.visits i caller s = [⟨i, caller, (p.evaluate i s).1⟩] := by
  obtain ⟨hi, hn⟩ := node?_eq_some.1 h
  have hc : p.children i = [] := children_of_node? h
  rw [visits, dif_pos hi]
  simp only [hn]
  split
  · next heq =>
    have hhead := head?_of_attach heq
    rw [hc] at hhead
    cases hhead
  · rfl

theorem visits_decorator {rule : Decorator} {c : Nat} (hi : i < p.size)
    (h : p.node? i = some ⟨name, .decorator rule (some c)⟩) :
    p.visits i caller s = ⟨i, caller, (p.evaluate i s).1⟩ ::
      if rule.exhausted s.cells[i] then [] else p.visits c (some i) (s.enter i) := by
  obtain ⟨_, hn⟩ := node?_eq_some.1 h
  have hc : p.children i = [c] := children_of_node? h
  rw [visits, dif_pos hi]
  simp only [hn]
  split
  · next heq =>
    have hhead := head?_of_attach heq
    rw [hc] at hhead
    cases hhead
    rfl
  · next heq =>
    rw [List.attach_eq_nil_iff, hc] at heq
    cases heq

/-! ### What evaluations do -/

variable {R : Evaluation C σ p.size → List Visit → Evaluation C σ p.size → Prop}

/-- A relation between states, visits and the states after them that holds of the single steps of
every evaluation. -/
structure Summary (p : Plan C σ)
    (R : Evaluation C σ p.size → List Visit → Evaluation C σ p.size → Prop) : Prop where
  nil : ∀ s, R s [] s
  append : ∀ s s' s'' vs vs', R s vs s' → R s' vs' s'' → R s (vs ++ vs') s''
  leaf : ∀ i name action, p.node? i = some ⟨name, .leaf action⟩ →
    ∀ caller s, R s [⟨i, caller, (p.evaluate i s).1⟩] (p.evaluate i s).2
  composite : ∀ i name rule cs, p.node? i = some ⟨name, .composite rule cs⟩ →
    ∀ caller s vs s', R (s.enter i) vs s' → R s (⟨i, caller, (p.evaluate i s).1⟩ :: vs) s'
  bare : ∀ i name rule, p.node? i = some ⟨name, .decorator rule none⟩ →
    ∀ caller s, R s [⟨i, caller, .failure⟩] (s.enter i)
  exhausted : ∀ i name rule c (hi : i < p.size),
    p.node? i = some ⟨name, .decorator rule (some c)⟩ → ∀ caller s,
      rule.exhausted s.cells[i] = true → R s [⟨i, caller, .success⟩] (s.enter i)
  decorator : ∀ i name rule c (hi : i < p.size),
    p.node? i = some ⟨name, .decorator rule (some c)⟩ → ∀ caller s,
      rule.exhausted s.cells[i] = false →
        let e := p.evaluate c (s.enter i)
        let settled := rule.settle e.1 e.2.cells[i]
        R (s.enter i) (p.visits c (some i) (s.enter i)) e.2 →
          R s (⟨i, caller, settled.1⟩ :: p.visits c (some i) (s.enter i))
            (e.2.store i hi settled.2)

/-- What holds of the single steps holds of an evaluation. -/
theorem Summary.evaluate (h : p.Summary R) (i : Nat) (caller : Option Nat)
    (s : Evaluation C σ p.size) : R s (p.visits i caller s) (p.evaluate i s).2 := by
  induction i using p.child_induction generalizing caller s with
  | step i ih =>
    cases hn : p.node? i with
    | none =>
      have hi : p.size ≤ i := Array.getElem?_eq_none_iff.1 hn
      rw [visits_of_size_le _ _ hi, Plan.evaluate, dif_neg (by omega)]
      exact h.nil s
    | some n =>
      rw [children_of_node? hn] at ih
      rcases n with ⟨name, ⟨rule, cs⟩ | ⟨rule, _ | c⟩ | action⟩
      · rw [visits_composite _ _ hn]
        apply h.composite i name rule cs hn
        rw [evaluate_composite hn, Composite.run_eq]
        have hsteps : (cs.map fun c => (p.evaluate c, p.visits c (some i))).map Prod.fst =
            cs.map p.evaluate := by
          simp
        rw [← hsteps]
        apply Composite.relates_notes h.nil h.append
        intro x hx s
        obtain ⟨c, hc, rfl⟩ := List.mem_map.1 hx
        exact ih c hc _ s
      · rw [visits_bare _ _ hn, evaluate_bare hn]
        exact h.bare i name rule hn caller s
      · have hchild := ih c (List.mem_singleton_self c) (some i) (s.enter i)
        have hi := lt_size_of_node? hn
        have hcells : (s.enter i).cells[i] = s.cells[i] := rfl
        rw [visits_decorator _ _ hi hn, evaluate_decorator hn, Decorator.evaluate_eq, hcells]
        cases hexhausted : rule.exhausted s.cells[i] with
        | true => exact h.exhausted i name rule c hi hn caller s hexhausted
        | false => exact h.decorator i name rule c hi hn caller s hexhausted hchild
      · rw [visits_leaf _ _ hn]
        exact h.leaf i name action hn caller s

/-! ### Which nodes are visited -/

/-- The nodes visited are the nodes that an evaluation enters. -/
theorem toList_entered_evaluate (i : Nat) (caller : Option Nat) (s : Evaluation C σ p.size) :
    (p.evaluate i s).2.entered.toList =
      s.entered.toList ++ (p.visits i caller s).map Visit.node := by
  refine Summary.evaluate (R := fun s vs s' =>
    s'.entered.toList = s.entered.toList ++ vs.map Visit.node) ?_ i caller s
  constructor
  case nil => simp
  case append =>
    intro s s' s'' vs vs' h h'
    rw [h', h, List.map_append, List.append_assoc]
  case leaf =>
    intro i name action hn caller s
    rw [evaluate_leaf hn, Leaf.evaluate_eq]
    simp [Evaluation.enter]
  case composite =>
    intro i name rule cs hn caller s vs s' h
    rw [h]
    simp [Evaluation.enter]
  case bare => simp [Evaluation.enter]
  case exhausted => simp [Evaluation.enter]
  case decorator =>
    intro i name rule c hi hn caller s hexhausted e settled h
    show e.2.entered.toList = _
    rw [h]
    simp [Evaluation.enter]

/-- The node that is evaluated is visited first. -/
theorem visits_of_lt (hi : i < p.size) :
    p.visits i caller s = ⟨i, caller, (p.evaluate i s).1⟩ :: (p.visits i caller s).tail := by
  rw [visits, dif_pos hi]
  rfl

/-- No node is visited more often than a walk down meets it, or in another order. -/
theorem sublist_visits (i : Nat) (caller : Option Nat) (s : Evaluation C σ p.size) :
    ((p.visits i caller s).map Visit.node).Sublist (p.preorder i) := by
  induction i using p.child_induction generalizing caller s with
  | step i ih =>
    cases hn : p.node? i with
    | none =>
      rw [visits_of_size_le _ _ (Array.getElem?_eq_none_iff.1 hn)]
      exact List.nil_sublist _
    | some n =>
      have hself := self_mem_preorder (lt_size_of_node? hn)
      rw [children_of_node? hn] at ih
      rcases n with ⟨name, ⟨rule, cs⟩ | ⟨rule, _ | c⟩ | action⟩
      · rw [visits_composite _ _ hn, preorder_of_composite hn, List.map_cons]
        exact (Composite.sublist_notes rule.stops (fun c hc s => ih c hc _ s) _).cons_cons i
      · rw [visits_bare _ _ hn]
        exact List.singleton_sublist.2 hself
      · rw [visits_decorator _ _ (lt_size_of_node? hn) hn, preorder_of_decorator hn, List.map_cons]
        refine List.Sublist.cons_cons i ?_
        split
        · exact List.nil_sublist _
        · exact ih c (List.mem_singleton_self c) _ _
      · rw [visits_leaf _ _ hn]
        exact List.singleton_sublist.2 hself

/-- A node that is visited later is evaluated for its parent. -/
theorem caller_of_mem_tail {v : Visit} (h : v ∈ (p.visits i caller s).tail) :
    ∃ j ∈ p.preorder i, v.caller = some j ∧ v.node ∈ p.children j := by
  induction i using p.child_induction generalizing caller s with
  | step i ih =>
    -- what is noted while a child is evaluated
    have hchild : ∀ c ∈ p.children i, ∀ s, v ∈ p.visits c (some i) s →
        ∃ j ∈ p.preorder i, v.caller = some j ∧ v.node ∈ p.children j := by
      intro c hc s hv
      have hi : i < p.size := by
        have hlt := lt_of_mem_children hc
        omega
      rw [visits_of_lt _ _ (lt_of_mem_children hc).2] at hv
      rcases List.mem_cons.1 hv with rfl | hv
      · exact ⟨i, self_mem_preorder hi, rfl, hc⟩
      · obtain ⟨j, hj, hcaller⟩ := ih c hc _ _ hv
        refine ⟨j, ?_, hcaller⟩
        rw [preorder_of_lt hi]
        exact .tail _ (List.mem_flatMap.2 ⟨c, hc, hj⟩)
    cases hn : p.node? i with
    | none =>
      rw [visits_of_size_le _ _ (Array.getElem?_eq_none_iff.1 hn)] at h
      exact absurd h List.not_mem_nil
    | some n =>
      rw [children_of_node? hn] at hchild
      rcases n with ⟨name, ⟨rule, cs⟩ | ⟨rule, _ | c⟩ | action⟩
      · rw [visits_composite _ _ hn] at h
        obtain ⟨c, hc, s, hv⟩ := Composite.mem_notes h
        exact hchild c hc s hv
      · rw [visits_bare _ _ hn] at h
        exact absurd h List.not_mem_nil
      · rw [visits_decorator _ _ (lt_size_of_node? hn) hn, List.tail_cons] at h
        split at h
        · exact absurd h List.not_mem_nil
        · exact hchild c (List.mem_singleton_self c) _ h
      · rw [visits_leaf _ _ hn] at h
        exact absurd h List.not_mem_nil

end Plan
end Guardhouse
