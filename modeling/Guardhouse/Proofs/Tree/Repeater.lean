import Guardhouse.Proofs.Tree.Reset
import Guardhouse.Proofs.Tree.Visits

/-!
# Repeaters

A repeater that is evaluated again and again runs as often as it counts, each time evaluating its
child, and from then on it succeeds by itself. Its count goes up with every evaluation of the child
and down only by a reset of the repeater or of a node above it (`Tree.repeats_up_to_count`).

This is a law about statuses in a row: from count `k` on, `n` evaluations have the statuses that
`Repeated` says, and lead to the count that it says. The law composes (`Repeated.append`), so it
holds of every evaluation (`Plan.repeated_evaluate`) and of every use of a tree without such a reset
(`Tree.repeated_callAll`).
-/

namespace Guardhouse

variable {C σ : Type}

/-! ### Statuses in a row -/

/-- The statuses of a repeater that has counted up to `k`, evaluation by evaluation, and the count
after the last of them. -/
structure Repeated (count k : Nat) (statuses : List Status) (k' : Nat) : Prop where
  statuses_eq : statuses =
    (List.range statuses.length).map fun j => if k + j < count then .running else .success
  count_eq : k' = min (k + statuses.length) count

namespace Repeated

variable {count k k' k'' : Nat} {statuses statuses' : List Status}

theorem nil (hk : k ≤ count) : Repeated count k [] k where
  statuses_eq := rfl
  count_eq := (Nat.min_eq_left hk).symm

theorem running (hk : k < count) : Repeated count k [.running] (k + 1) where
  statuses_eq := by simp [hk]
  count_eq := (Nat.min_eq_left hk).symm

theorem success (count : Nat) : Repeated count count [.success] count where
  statuses_eq := by simp
  count_eq := (Nat.min_eq_right (Nat.le_add_right count _)).symm

theorem le (h : Repeated count k statuses k') : k' ≤ count := by
  rw [h.count_eq]
  exact Nat.min_le_right _ _

theorem append (h : Repeated count k statuses k') (h' : Repeated count k' statuses' k'') :
    Repeated count k (statuses ++ statuses') k'' where
  statuses_eq := by
    rw [List.length_append, List.range_add, List.map_append, List.map_map]
    refine congrArg₂ (· ++ ·) h.statuses_eq (h'.statuses_eq.trans ?_)
    apply List.map_congr_left
    intro j _
    have hiff : k' + j < count ↔ k + (statuses.length + j) < count := by
      have hcount := h.count_eq
      omega
    simp only [Function.comp, hiff]
  count_eq := by
    have hcount := h.count_eq
    have hcount' := h'.count_eq
    rw [List.length_append]
    omega

/-- A repeater runs as often as its count goes up. -/
theorem count_running (h : Repeated count k statuses k') (hk : k ≤ count) :
    k + statuses.count .running = k' := by
  rw [h.count_eq, h.statuses_eq, List.length_map, List.length_range]
  induction statuses.length with
  | zero => exact (Nat.min_eq_left hk).symm
  | succ n ih =>
    rw [List.range_succ, List.map_append, List.count_append, List.map_singleton]
    split
    · rw [List.count_singleton_self]
      omega
    · rw [List.count_singleton, if_neg (by decide)]
      omega

end Repeated

namespace Visit

/-- The statuses of a node, one for each of its evaluations. -/
def statuses (r : Nat) (visits : List Visit) : List Status :=
  (visits.filter fun v => v.node == r).map Visit.status

/-- How often a node has had others evaluated. -/
def callsBy (r : Nat) (visits : List Visit) : Nat :=
  visits.countP fun v => v.caller == some r

variable {r : Nat}

@[simp] theorem statuses_nil : statuses r [] = [] := rfl

@[simp] theorem callsBy_nil : callsBy r [] = 0 := rfl

theorem statuses_append (visits visits' : List Visit) :
    statuses r (visits ++ visits') = statuses r visits ++ statuses r visits' := by
  unfold statuses
  rw [List.filter_append, List.map_append]

theorem callsBy_append (visits visits' : List Visit) :
    callsBy r (visits ++ visits') = callsBy r visits + callsBy r visits' := List.countP_append

theorem statuses_cons_self (caller : Option Nat) (status : Status) (visits : List Visit) :
    statuses r (⟨r, caller, status⟩ :: visits) = status :: statuses r visits := by
  simp [statuses]

theorem statuses_cons_ne {i : Nat} (hi : i ≠ r) (caller : Option Nat) (status : Status)
    (visits : List Visit) : statuses r (⟨i, caller, status⟩ :: visits) = statuses r visits := by
  simp [statuses, hi]

theorem length_statuses (r : Nat) (visits : List Visit) :
    (statuses r visits).length = (visits.map Visit.node).count r := by
  unfold statuses
  rw [List.length_map, ← List.countP_eq_length_filter, List.count, List.countP_map]
  rfl

theorem statuses_eq_nil {visits : List Visit} (h : r ∉ visits.map Visit.node) :
    statuses r visits = [] := by
  unfold statuses
  rw [List.map_eq_nil_iff, List.filter_eq_nil_iff]
  intro v hv hnode
  exact h (List.mem_map.2 ⟨v, hv, by simpa using hnode⟩)

theorem callsBy_cons_ne {caller : Option Nat} (h : caller ≠ some r) (i : Nat) (status : Status)
    (visits : List Visit) : callsBy r (⟨i, caller, status⟩ :: visits) = callsBy r visits := by
  simp [callsBy, h]

theorem callsBy_cons_self (i : Nat) (status : Status) (visits : List Visit) :
    callsBy r (⟨i, some r, status⟩ :: visits) = callsBy r visits + 1 := by
  simp [callsBy]

end Visit

namespace Plan

variable {p : Plan C σ} {r child count : Nat} {name : String}

/-! ### One evaluation -/

theorem le_of_leads {i j : Nat} (h : p.Leads i j) : i ≤ j := by
  induction h with
  | refl => exact Nat.le_refl _
  | tail _ hchild ih =>
    have hlt := lt_of_mem_children hchild
    omega

theorem ne_of_node? {i j : Nat} {n m : Node C σ} (hi : p.node? i = some n)
    (hj : p.node? j = some m) (h : n.kind ≠ m.kind) : i ≠ j := by
  rintro rfl
  cases hi.symm.trans hj
  exact h rfl

/-- No node is evaluated in the course of evaluating one of its children. -/
theorem statuses_visits_child {i c : Nat} (hc : c ∈ p.children i) (caller : Option Nat)
    (s : Evaluation C σ p.size) : Visit.statuses i (p.visits c caller s) = [] := by
  apply Visit.statuses_eq_nil
  intro hmem
  have hlt := lt_of_mem_children hc
  have hle := le_of_mem_preorder ((sublist_visits c caller s).subset hmem)
  omega

/-- A child that is evaluated for its parent is evaluated for it once, and nothing else is. -/
theorem callsBy_visits_child {i c : Nat} (hc : c ∈ p.children i) (s : Evaluation C σ p.size) :
    Visit.callsBy i (p.visits c (some i) s) = 1 := by
  have hlt := lt_of_mem_children hc
  have hbelow : Visit.callsBy i (p.visits c (some i) s).tail = 0 := by
    unfold Visit.callsBy
    rw [List.countP_eq_zero]
    intro v hv hcaller
    obtain ⟨j, hj, hv, -⟩ := caller_of_mem_tail _ _ hv
    have hle := le_of_mem_preorder hj
    have hij : j = i := by simpa [hv] using hcaller
    omega
  rw [visits_of_lt _ _ hlt.2, Visit.callsBy_cons_self, hbelow]

section Repeater

variable (hr : p.node? r = some ⟨name, .decorator (.repeater count) (some child)⟩)

include hr

/-- A repeater that has not counted to its end runs and has its child evaluated; then it succeeds
without. -/
theorem visits_repeater (hlt : r < p.size) (caller : Option Nat) (s : Evaluation C σ p.size) :
    p.visits r caller s =
      if s.cells[r].times < count then
        ⟨r, caller, .running⟩ :: p.visits child (some r) (s.enter r)
      else [⟨r, caller, .success⟩] := by
  have hcells : (s.enter r).cells[r] = s.cells[r] := rfl
  rw [visits_decorator _ _ hlt hr, evaluate_decorator hr, Decorator.evaluate_eq, hcells]
  by_cases hmore : s.cells[r].times < count
  · simp [Decorator.exhausted, Decorator.settle, hmore, Nat.not_le_of_lt hmore]
  · simp [Decorator.exhausted, hmore, Nat.le_of_not_lt hmore]

/-- What a repeater does when it is evaluated, and what its count is then. -/
theorem repeated_evaluate (hlt : r < p.size) (i : Nat) (caller : Option Nat)
    (s : Evaluation C σ p.size) (hk : s.cells[r].times ≤ count) :
    Repeated count s.cells[r].times (Visit.statuses r (p.visits i caller s))
      (p.evaluate i s).2.cells[r].times := by
  refine Summary.evaluate (R := fun s vs s' => s.cells[r].times ≤ count →
    Repeated count s.cells[r].times (Visit.statuses r vs) s'.cells[r].times) ?_ i caller s hk
  constructor
  case nil => exact fun s hk => .nil hk
  case append =>
    intro s s' s'' vs vs' h h' hk
    have hfirst := h hk
    rw [Visit.statuses_append]
    exact hfirst.append (h' hfirst.le)
  case leaf =>
    intro i name action hn caller s hk
    have hi := lt_size_of_node? hn
    have hne : i ≠ r := ne_of_node? hn hr (by simp)
    rw [Visit.statuses_cons_ne hne, evaluate_leaf hn, Leaf.evaluate_eq]
    show Repeated count _ _ (s.cells.set i _ hi)[r].times
    rw [Vector.getElem_set_ne _ _ hne]
    exact .nil hk
  case composite =>
    intro i name rule cs hn caller s vs s' h hk
    have hne : i ≠ r := ne_of_node? hn hr (by simp)
    rw [Visit.statuses_cons_ne hne]
    exact h hk
  case bare =>
    intro i name rule hn caller s hk
    have hne : i ≠ r := ne_of_node? hn hr (by simp)
    rw [Visit.statuses_cons_ne hne]
    exact .nil hk
  case exhausted =>
    intro i name rule c hi hn caller s hexhausted hk
    by_cases hir : i = r
    · subst hir
      cases hr.symm.trans hn
      have hdone : s.cells[i].times = count := by
        have hle : count ≤ s.cells[i].times := by simpa [Decorator.exhausted] using hexhausted
        omega
      rw [Visit.statuses_cons_self, Visit.statuses_nil]
      show Repeated count s.cells[i].times [.success] s.cells[i].times
      rw [hdone]
      exact .success count
    · rw [Visit.statuses_cons_ne hir]
      exact .nil hk
  case decorator =>
    intro i name rule c hi hn caller s hexhausted e settled h hk
    by_cases hir : i = r
    · subst hir
      cases hr.symm.trans hn
      have hmore : s.cells[i].times < count := by simpa [Decorator.exhausted] using hexhausted
      have hnone := statuses_visits_child (mem_children_of_decorator hn) (some i) (s.enter i)
      -- the child does not lead back to the repeater, so the count is what it was before
      have hsame := (h hk).count_eq
      rw [hnone, List.length_nil, Nat.add_zero] at hsame
      replace hsame : e.2.cells[i].times = s.cells[i].times := hsame.trans (Nat.min_eq_left hk)
      rw [Visit.statuses_cons_self, hnone]
      show Repeated count s.cells[i].times [.running] (e.2.cells.set i _ hi)[i].times
      rw [Vector.getElem_set_self]
      show Repeated count s.cells[i].times [.running] (e.2.cells[i].times + 1)
      rw [hsame]
      exact .running hmore
    · rw [Visit.statuses_cons_ne hir]
      show Repeated count _ _ (e.2.cells.set i _ hi)[r].times
      rw [Vector.getElem_set_ne _ _ hir]
      exact h hk

/-- A repeater has its child evaluated whenever it runs itself, and nothing else. -/
theorem callsBy_visits (i : Nat) (caller : Option Nat) (s : Evaluation C σ p.size) :
    Visit.callsBy r (p.visits i caller s).tail =
      (Visit.statuses r (p.visits i caller s)).count .running := by
  induction i using p.child_induction generalizing caller s with
  | step i ih =>
    -- children of other nodes are evaluated for those
    have hchild : i ≠ r → ∀ c ∈ p.children i, ∀ s, Visit.callsBy r (p.visits c (some i) s) =
        (Visit.statuses r (p.visits c (some i) s)).count .running := by
      intro hne c hc s
      rw [← ih c hc, visits_of_lt _ _ (lt_of_mem_children hc).2,
        Visit.callsBy_cons_ne (by simpa using hne), List.tail_cons]
    cases hn : p.node? i with
    | none =>
      rw [visits_of_size_le _ _ (Array.getElem?_eq_none_iff.1 hn)]
      rfl
    | some n =>
      have hi := lt_size_of_node? hn
      rw [children_of_node? hn] at hchild
      rcases n with ⟨name, ⟨rule, cs⟩ | ⟨rule, _ | c⟩ | action⟩
      · have hne : i ≠ r := ne_of_node? hn hr (by simp)
        rw [visits_composite _ _ hn, List.tail_cons, Visit.statuses_cons_ne hne]
        refine Composite.relates_notes
          (R := fun _ vs _ => Visit.callsBy r vs = (Visit.statuses r vs).count .running)
          (fun _ => rfl) ?_ rule.stops ?_ _
        · intro _ _ _ vs vs' h h'
          rw [Visit.callsBy_append, Visit.statuses_append, List.count_append, h, h']
        · intro x hx s
          obtain ⟨c, hc, rfl⟩ := List.mem_map.1 hx
          exact hchild hne c hc s
      · have hne : i ≠ r := ne_of_node? hn hr (by simp)
        rw [visits_bare _ _ hn, List.tail_cons, Visit.statuses_cons_ne hne]
        rfl
      · by_cases hir : i = r
        · subst hir
          cases hr.symm.trans hn
          have hchildren := mem_children_of_decorator hn
          rw [visits_repeater hn hi]
          split
          · rw [List.tail_cons, Visit.statuses_cons_self, callsBy_visits_child hchildren,
              statuses_visits_child hchildren]
            rfl
          · rw [List.tail_cons, Visit.statuses_cons_self]
            rfl
        · rw [visits_decorator _ _ hi hn, List.tail_cons, Visit.statuses_cons_ne hir]
          split
          · rfl
          · exact hchild hir c (List.mem_singleton_self c) _
      · have hne : i ≠ r := ne_of_node? hn hr (by simp)
        rw [visits_leaf _ _ hn, List.tail_cons, Visit.statuses_cons_ne hne]
        rfl

end Repeater
end Plan

/-! ### Using a tree -/

namespace Tree

/-- What a node remembers; nothing if there is no such node. -/
def cell (t : Tree C σ) (r : Nat) : Cell σ := (t.cell? r).getD .fresh

/-- How often a repeater has counted. -/
def times (t : Tree C σ) (r : Nat) : Nat := ((t.cell? r).getD .fresh).times

/-- The evaluations of nodes that a call brings about. -/
def visits (t : Tree C σ) : Call C → List Visit
  | .evaluate c =>
    match t.plan.root with
    | some root => t.plan.visits root none { context := c, cells := t.cells }
    | none => []
  | .evaluateAt i c => t.plan.visits i none { context := c, cells := t.cells }
  | .resetAt _ => []

/-- The evaluations of nodes that calls bring about. -/
def visitsAll (t : Tree C σ) : List (Call C) → List Visit
  | [] => []
  | call :: calls => t.visits call ++ (t.call call).visitsAll calls

/-- The nodes that a call notes as entered. -/
def entered (t : Tree C σ) : Call C → List Nat
  | .evaluate c => (t.evaluate c).entered.toList
  | .evaluateAt i c => (t.evaluateAt i c).entered.toList
  | .resetAt _ => []

/-- The nodes that calls note as entered. -/
def enteredAll (t : Tree C σ) : List (Call C) → List Nat
  | [] => []
  | call :: calls => t.entered call ++ (t.call call).enteredAll calls

theorem map_node_visits (t : Tree C σ) (call : Call C) :
    (t.visits call).map Visit.node = t.entered call := by
  have hat : ∀ i c, (t.plan.visits i none { context := c, cells := t.cells }).map Visit.node =
      (t.evaluateAt i c).entered.toList := by
    intro i c
    have hentered : (t.evaluateAt i c).entered.toList = [] ++ _ :=
      Plan.toList_entered_evaluate i none { context := c, cells := t.cells }
    rw [hentered, List.nil_append]
  cases call with
  | evaluate c =>
    cases hroot : t.plan.root with
    | none => simp [visits, entered, evaluate, hroot]
    | some root => simpa [visits, entered, evaluate, hroot] using hat root c
  | evaluateAt i c => exact hat i c
  | resetAt a => rfl

/-- The evaluations of nodes are those that the tree itself notes. -/
theorem map_node_visitsAll (t : Tree C σ) (calls : List (Call C)) :
    (t.visitsAll calls).map Visit.node = t.enteredAll calls := by
  induction calls generalizing t with
  | nil => rfl
  | cons call calls ih => rw [visitsAll, List.map_append, map_node_visits, ih, enteredAll]

theorem cell_of_lt {t : Tree C σ} {r : Nat} (hr : r < t.plan.size) : t.cell r = t.cells[r] := by
  unfold cell cell?
  rw [Vector.getElem?_eq_getElem hr]
  rfl

theorem cell_resetAt (t : Tree C σ) (a r : Nat) :
    (t.resetAt a).cell r = if r ∈ t.plan.preorder a then (t.cell r).reset else t.cell r := by
  unfold cell
  rw [cell?_resetAt]
  split
  · cases t.cell? r <;> rfl
  · rfl

theorem cell_ofPlan (p : Plan C σ) (r : Nat) : (ofPlan p).cell r = .fresh := by
  have hcell : (ofPlan p).cell? r = if r < p.size then some .fresh else none :=
    Vector.getElem?_replicate
  unfold cell
  rw [hcell]
  split <;> rfl

theorem times_of_lt {t : Tree C σ} {r : Nat} (hr : r < t.plan.size) :
    t.times r = t.cells[r].times :=
  congrArg Cell.times (cell_of_lt hr)

theorem times_resetAt (t : Tree C σ) (a r : Nat) :
    (t.resetAt a).times r = if r ∈ t.plan.preorder a then 0 else t.times r := by
  show ((t.resetAt a).cell r).times = if _ then 0 else (t.cell r).times
  rw [cell_resetAt]
  split
  · cases t.cell r <;> rfl
  · rfl

theorem times_ofPlan (p : Plan C σ) (r : Nat) : (ofPlan p).times r = 0 :=
  congrArg Cell.times (cell_ofPlan p r)

theorem times_resetAt_of_leads {t : Tree C σ} {a r : Nat} (hr : r < t.plan.size)
    (h : t.plan.Leads a r) : (t.resetAt a).times r = 0 := by
  have hle := Plan.le_of_leads h
  rw [times_resetAt, if_pos ((Plan.mem_preorder (by omega)).2 h)]

/-- Evaluating a tree is evaluating its root; nothing happens if there is none. -/
theorem call_evaluate (t : Tree C σ) (c : C) :
    (∃ root, t.call (.evaluate c) = t.call (.evaluateAt root c) ∧
        t.visits (.evaluate c) = t.visits (.evaluateAt root c)) ∨
      t.call (.evaluate c) = t ∧ t.visits (.evaluate c) = [] := by
  cases hroot : t.plan.root with
  | none => exact .inr ⟨by simp only [call, evaluate, hroot], by simp only [visits, hroot]⟩
  | some root =>
    exact .inl ⟨root, by simp only [call, evaluate, hroot], by simp only [visits, hroot]⟩

theorem callAll_concat (t : Tree C σ) (calls : List (Call C)) (call : Call C) :
    t.callAll (calls ++ [call]) = (t.callAll calls).call call := List.foldl_concat ..

theorem plan_call (t : Tree C σ) (call : Call C) : (t.call call).plan = t.plan :=
  t.plan_callAll [call]

/-- What holds of the evaluations that each call on a node brings about holds of all together. -/
theorem forall_visitsAll (t : Tree C σ) {P : List Visit → Prop} (nil : P [])
    (append : ∀ vs vs', P vs → P vs' → P (vs ++ vs'))
    (h : ∀ u : Tree C σ, u.plan = t.plan → ∀ i c, P (u.visits (.evaluateAt i c)))
    (calls : List (Call C)) : P (t.visitsAll calls) := by
  induction calls generalizing t with
  | nil => exact nil
  | cons call calls ih =>
    have hrest := ih (t.call call) fun u hu => h u (hu.trans (t.plan_call call))
    refine append _ _ ?_ hrest
    cases call with
    | evaluate c =>
      rcases t.call_evaluate c with ⟨root, -, hvisits⟩ | ⟨-, hvisits⟩
      · rw [hvisits]
        exact h t rfl root c
      · rw [hvisits]
        exact nil
    | evaluateAt i c => exact h t rfl i c
    | resetAt a => exact nil

section Repeater

variable {t : Tree C σ} {r child count : Nat} {name : String}
  (hr : t.plan.node? r = some ⟨name, .decorator (.repeater count) (some child)⟩)

include hr

/-- What a call does to a repeater that it does not reset. -/
theorem repeated_call (hk : t.times r ≤ count) (call : Call C)
    (hcall : ∀ a, call = .resetAt a → ¬t.plan.Leads a r) :
    Repeated count (t.times r) (Visit.statuses r (t.visits call)) ((t.call call).times r) := by
  have hlt := Plan.lt_size_of_node? hr
  have hat : ∀ i c, Repeated count (t.times r) (Visit.statuses r (t.visits (.evaluateAt i c)))
      ((t.call (.evaluateAt i c)).times r) := by
    intro i c
    rw [times_of_lt hlt] at hk ⊢
    rw [times_of_lt (t := t.call (.evaluateAt i c)) hlt]
    exact Plan.repeated_evaluate hr hlt i none { context := c, cells := t.cells } hk
  cases call with
  | evaluate c =>
    rcases t.call_evaluate c with ⟨root, hcall, hvisits⟩ | ⟨hcall, hvisits⟩
    · rw [hcall, hvisits]
      exact hat root c
    · rw [hcall, hvisits]
      exact .nil hk
  | evaluateAt i c => exact hat i c
  | resetAt a =>
    have hmem : r ∉ t.plan.preorder a := by
      intro hmem
      have hle := Plan.le_of_mem_preorder hmem
      exact hcall a rfl ((Plan.mem_preorder (by omega)).1 hmem)
    show Repeated count (t.times r) [] ((t.resetAt a).times r)
    rw [times_resetAt, if_neg hmem]
    exact .nil hk

/-- What calls do to a repeater that none of them resets. -/
theorem repeated_callAll (hk : t.times r ≤ count) (calls : List (Call C))
    (hcalls : ∀ a, .resetAt a ∈ calls → ¬t.plan.Leads a r) :
    Repeated count (t.times r) (Visit.statuses r (t.visitsAll calls))
      ((t.callAll calls).times r) := by
  induction calls generalizing t with
  | nil => exact .nil hk
  | cons call calls ih =>
    have hplan := t.plan_call call
    have hfirst := repeated_call hr hk call fun a ha => hcalls a (ha ▸ .head _)
    have hrest := ih (t := t.call call) (hplan ▸ hr) hfirst.le fun a ha =>
      hplan ▸ hcalls a (.tail _ ha)
    rw [visitsAll, Visit.statuses_append]
    exact hfirst.append hrest

/-- A repeater has its child evaluated once for every time that it runs. -/
theorem callsBy_visitsAll (calls : List (Call C)) :
    Visit.callsBy r (t.visitsAll calls) =
      (Visit.statuses r (t.visitsAll calls)).count .running := by
  apply t.forall_visitsAll
    (P := fun vs => Visit.callsBy r vs = (Visit.statuses r vs).count .running) rfl
  · intro vs vs' h h'
    rw [Visit.callsBy_append, Visit.statuses_append, List.count_append, h, h']
  · intro u hu i c
    rw [← hu] at hr
    let s : Evaluation C σ u.plan.size := { context := c, cells := u.cells }
    show Visit.callsBy r (u.plan.visits i none s) = _
    rw [show u.visits (.evaluateAt i c) = u.plan.visits i none s from rfl,
      ← Plan.callsBy_visits hr i none s]
    by_cases hi : i < u.plan.size
    · rw [Plan.visits_of_lt _ _ hi, Visit.callsBy_cons_ne (by simp), List.tail_cons]
    · rw [Plan.visits_of_size_le _ _ (by omega), List.tail_nil]

/-- A repeater has nothing evaluated but its child. -/
theorem node_of_caller {calls : List (Call C)} {v : Visit} (hv : v ∈ t.visitsAll calls)
    (hcaller : v.caller = some r) : v.node = child := by
  revert v
  apply t.forall_visitsAll (P := fun vs => ∀ {v}, v ∈ vs → v.caller = some r → v.node = child)
  · intro v hv
    exact absurd hv List.not_mem_nil
  · intro vs vs' h h' v hv
    exact (List.mem_append.1 hv).elim h h'
  · intro u hu i c v hv hcaller
    rw [← hu] at hr
    let s : Evaluation C σ u.plan.size := { context := c, cells := u.cells }
    have hv : v ∈ u.plan.visits i none s := hv
    by_cases hi : i < u.plan.size
    · rw [Plan.visits_of_lt _ _ hi] at hv
      rcases List.mem_cons.1 hv with rfl | hv
      · cases hcaller
      · obtain ⟨j, -, hj, hnode⟩ := Plan.caller_of_mem_tail _ _ hv
        cases hcaller.symm.trans hj
        rw [Plan.children_of_node? hr] at hnode
        exact List.mem_singleton.1 hnode
    · rw [Plan.visits_of_size_le _ _ (by omega)] at hv
      exact absurd hv List.not_mem_nil

end Repeater

/-- Since a repeater was built, or since a reset of it or of a node above it, and as long as there
is no other such reset, its first evaluations run, as many as it counts to, and all others succeed,
whatever its child does. Its child is evaluated for it as often as it runs, and its count is the
number of its evaluations until it is complete. No other call makes a count smaller. The evaluations
counted are those of the nodes that the tree notes as entered. -/
theorem repeats_up_to_count (lines : List (Line C σ)) (before since : List (Call C))
    {r child count : Nat} {name : String}
    (hr : (Plan.ofLines lines).node? r = some ⟨name, .decorator (.repeater count) (some child)⟩)
    (hbefore : before = [] ∨
      ∃ earlier a, before = earlier ++ [.resetAt a] ∧ (Plan.ofLines lines).Leads a r)
    (hsince : ∀ a, .resetAt a ∈ since → ¬(Plan.ofLines lines).Leads a r) :
    let t := (Tree.ofLines lines).callAll before
    let log := t.visitsAll since
    let statuses := Visit.statuses r log
    let n := statuses.length
    (∀ i, 1 ≤ i → i ≤ n → statuses[i - 1]? = some (if i ≤ count then .running else .success)) ∧
      Visit.callsBy r log = min n count ∧ (∀ v ∈ log, v.caller = some r → v.node = child) ∧
      (t.callAll since).times r = min n count ∧
      (∀ call, ((t.callAll since).call call).times r < (t.callAll since).times r →
        ∃ a, call = .resetAt a ∧ (Plan.ofLines lines).Leads a r) ∧
      log.map Visit.node = t.enteredAll since ∧ n = (t.enteredAll since).count r := by
  intro t log statuses n
  have hplan : t.plan = .ofLines lines := plan_callAll _ _
  have hzero : t.times r = 0 := by
    rcases hbefore with rfl | ⟨earlier, a, rfl, hlead⟩
    · exact times_ofPlan _ r
    · have hearlier : ((Tree.ofLines lines).callAll earlier).plan = .ofLines lines :=
        plan_callAll _ _
      rw [show t = ((Tree.ofLines lines).callAll earlier).resetAt a from callAll_concat _ _ _]
      exact times_resetAt_of_leads (hearlier ▸ Plan.lt_size_of_node? hr) (hearlier ▸ hlead)
  rw [← hplan] at hr hsince ⊢
  have hrepeated := repeated_callAll hr (hzero ▸ Nat.zero_le count) since hsince
  have hle := hrepeated.le
  rw [hzero] at hrepeated
  have hcount : (t.callAll since).times r = min n count := by
    rw [hrepeated.count_eq, Nat.zero_add]
  have hentered : log.map Visit.node = t.enteredAll since := t.map_node_visitsAll since
  refine ⟨?_, ?_, fun v hv => node_of_caller hr hv, hcount, ?_, hentered, ?_⟩
  · intro i hi hn
    have hstatus : statuses[i - 1]? = ((List.range n).map _)[i - 1]? :=
      congrArg (·[i - 1]?) hrepeated.statuses_eq
    rw [hstatus, List.getElem?_map, List.getElem?_range (by omega), Option.map_some]
    have hiff : 0 + (i - 1) < count ↔ i ≤ count := by omega
    simp only [hiff]
  · have hrunning := hrepeated.count_running (Nat.zero_le count)
    rw [callsBy_visitsAll hr, ← hcount, ← hrunning, Nat.zero_add]
  · intro call hless
    by_contra hreset
    have hplan' : (t.callAll since).plan = t.plan := plan_callAll _ _
    have hcall := repeated_call (hplan' ▸ hr) hle call fun a ha hlead =>
      hreset ⟨a, ha, hplan' ▸ hlead⟩
    have hafter := hcall.count_eq
    omega
  · rw [← hentered]
    exact Visit.length_statuses r log

/-- A repeater of one under a repeater of three, after a reset of the upper one: it is evaluated
three times, runs once, and is not restarted. -/
theorem repeats_up_to_count_nested :
    let t := (Tree.ofLines [.decorator "Outer" (.repeater 3), .decorator "Inner" (.repeater 1),
      .leaf "Work" (.act fun c : Unit => (.success, c))]).callAll [.evaluate (), .resetAt 0]
    let since : List (Call Unit) := [.evaluate (), .evaluate (), .evaluate (), .evaluate ()]
    let statuses := Visit.statuses 1 (t.visitsAll since)
    statuses.length = 3 ∧ statuses[0]? = some .running ∧ statuses[1]? = some .success ∧
      statuses[2]? = some .success ∧ Visit.callsBy 1 (t.visitsAll since) = 1 ∧
      (t.callAll since).times 1 = 1 := by
  intro t since statuses
  have hlength : statuses.length = 3 := by decide +kernel
  have hbefore : ([.evaluate (), .resetAt 0] : List (Call Unit)) = [] ∨
      ∃ earlier a, [Call.evaluate (), .resetAt 0] = earlier ++ [.resetAt a] ∧ t.plan.Leads a 1 :=
    .inr ⟨[.evaluate ()], 0, rfl, .single (List.mem_singleton_self 1)⟩
  obtain ⟨hstatuses, hcalls, -, htimes, -, -⟩ :=
    repeats_up_to_count (r := 1) _ [.evaluate (), .resetAt 0] since rfl hbefore (by simp [since])
  have hle : ∀ i, i ≤ 3 → i ≤ statuses.length := fun i hi => hlength ▸ hi
  refine ⟨hlength, ?_, ?_, ?_, ?_, ?_⟩
  · exact hstatuses 1 (by decide) (hle 1 (by decide))
  · exact hstatuses 2 (by decide) (hle 2 (by decide))
  · exact hstatuses 3 (by decide) (hle 3 (by decide))
  · rw [hcalls, hlength]
    rfl
  · rw [htimes, hlength]
    rfl

end Tree
end Guardhouse
