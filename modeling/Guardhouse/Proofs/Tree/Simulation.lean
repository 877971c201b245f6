import Guardhouse.Proofs.Plan.Outline
import Guardhouse.Proofs.Tree.Threshold
import Mathlib.Data.List.Forall2

/-!
# Evaluating an arena is evaluating its unfolding

Evaluation walks an arena by index and writes into cells that all nodes share; `Shape.run` recurses
on a tree that holds what it remembers.

`Shape.At` says that a shape lies in a plan at an index. The main lemma `Shape.At.simulates` is an
induction on the shape: evaluating the arena there is running the shape. It needs that nothing below
the node is reached twice (`Plan.Follows`): then evaluating one child leaves the cells of the others
alone, and what lies there is the shape it was before. It also needs the verdicts that the shape runs
with to be those of the arena, on whatever statuses a composite can see.
-/

namespace Guardhouse

variable {α C σ : Type}

/-! ### Composites, one status at a time -/

namespace Composite

variable {S : Type}

/-- Takes steps until one has a status that stops, and lists the statuses. -/
def collect (stops : Status → Bool) : List (Step S) → S → List Status × S
  | [], s => ([], s)
  | step :: rest, s =>
    let (status, s) := step s
    if stops status then ([status], s)
    else
      let (statuses, s) := collect stops rest s
      (status :: statuses, s)

/-- A composite with `n` children can have seen these statuses. -/
structure Sees (rule : Composite) (n : Nat) (statuses : List Status) : Prop where
  length_le : statuses.length ≤ n
  length_eq : ∀ required, rule = .parallel required → statuses.length = n

theorem length_collect_le (stops : Status → Bool) (steps : List (Step S)) (s : S) :
    (collect stops steps s).1.length ≤ steps.length := by
  induction steps generalizing s with
  | nil => exact Nat.le_refl _
  | cons step rest ih =>
    simp only [collect]
    split
    · exact Nat.succ_le_succ (Nat.zero_le _)
    · exact Nat.succ_le_succ (ih _)

theorem length_collect {stops : Status → Bool} (h : ∀ status, stops status = false)
    (steps : List (Step S)) (s : S) : (collect stops steps s).1.length = steps.length := by
  induction steps generalizing s with
  | nil => rfl
  | cons step rest ih =>
    simp only [collect, h, Bool.false_eq_true, if_false, List.length_cons, ih]

theorem sees_collect (rule : Composite) (steps : List (Step S)) (s : S) :
    rule.Sees steps.length (collect rule.stops steps s).1 where
  length_le := length_collect_le rule.stops steps s
  length_eq required hrule := length_collect (by rw [hrule]; exact fun _ => rfl) steps s

theorem select_eq (steps : List (Step S)) (s : S) :
    select steps s =
      (verdict .selector (collect (stops .selector) steps s).1,
        (collect (stops .selector) steps s).2) := by
  induction steps generalizing s with
  | nil => rfl
  | cons step rest ih =>
    simp only [select, collect, stops]
    rcases step s with ⟨_ | _ | _, s'⟩
    · rfl
    · exact ih s'
    · rfl

theorem inSequence_eq (steps : List (Step S)) (s : S) :
    inSequence steps s =
      (verdict .sequence (collect (stops .sequence) steps s).1,
        (collect (stops .sequence) steps s).2) := by
  induction steps generalizing s with
  | nil => rfl
  | cons step rest ih =>
    simp only [inSequence, collect, stops]
    rcases step s with ⟨_ | _ | _, s'⟩
    · exact ih s'
    · rfl
    · rfl

theorem tally_eq (required : UInt64) (steps : List (Step S)) (t : Tally) (s : S) :
    tally steps t s =
      ((collect (stops (.parallel required)) steps s).1.foldl Tally.record t,
        (collect (stops (.parallel required)) steps s).2) := by
  induction steps generalizing t s with
  | nil => rfl
  | cons step rest ih =>
    simp only [tally, collect, stops, Bool.false_eq_true, if_false, List.foldl_cons]
    exact ih _ _

/-- A composite judges the statuses that it collects. -/
theorem run_eq (rule : Composite) (steps : List (Step S)) (s : S) :
    rule.run steps s =
      (rule.judge (collect rule.stops steps s).1, (collect rule.stops steps s).2) := by
  cases rule with
  | selector => exact select_eq steps s
  | sequence => exact inSequence_eq steps s
  | parallel required =>
    simp only [run, inParallel, tally_eq required]
    rfl

end Composite

/-! ### Evaluation, one node at a time -/

namespace Plan

variable {p : Plan C σ} {i : Nat}

theorem node?_eq_some {n : Node C σ} : p.node? i = some n ↔ ∃ h : i < p.size, p.nodes[i] = n :=
  Array.getElem?_eq_some_iff

theorem head?_of_attach {c : Nat} {hc : c ∈ p.children i} {rest : List {c // c ∈ p.children i}}
    (h : (p.children i).attach = ⟨c, hc⟩ :: rest) : (p.children i).head? = some c := by
  have hval := congrArg (List.map Subtype.val) h
  rw [List.attach_map_subtype_val] at hval
  exact congrArg List.head? hval

theorem evaluate_leaf {name : String} {action : Leaf C σ}
    (h : p.node? i = some ⟨name, .leaf action⟩) (s : Evaluation C σ p.size) :
    p.evaluate i s = action.evaluate i (lt_size_of_node? h) (s.enter i) := by
  obtain ⟨hi, hn⟩ := node?_eq_some.1 h
  rw [evaluate, dif_pos hi]
  simp only [hn]

theorem evaluate_composite {name : String} {rule : Composite} {children : List Nat}
    (h : p.node? i = some ⟨name, .composite rule children⟩) (s : Evaluation C σ p.size) :
    p.evaluate i s = rule.run (children.map p.evaluate) (s.enter i) := by
  obtain ⟨hi, hn⟩ := node?_eq_some.1 h
  have hc : p.children i = children := children_of_node? h
  rw [evaluate, dif_pos hi]
  simp only [hn, List.map_subtype, List.unattach_attach, hc]

theorem evaluate_bare {name : String} {rule : Decorator}
    (h : p.node? i = some ⟨name, .decorator rule none⟩) (s : Evaluation C σ p.size) :
    p.evaluate i s = (.failure, s.enter i) := by
  obtain ⟨hi, hn⟩ := node?_eq_some.1 h
  have hc : p.children i = [] := children_of_node? h
  rw [evaluate, dif_pos hi]
  simp only [hn]
  split
  · next heq =>
    have hhead := head?_of_attach heq
    rw [hc] at hhead
    cases hhead
  · rfl

theorem evaluate_decorator {name : String} {rule : Decorator} {child : Nat}
    (h : p.node? i = some ⟨name, .decorator rule (some child)⟩) (s : Evaluation C σ p.size) :
    p.evaluate i s =
      rule.evaluate i (lt_size_of_node? h) (p.evaluate child) (s.enter i) := by
  obtain ⟨hi, hn⟩ := node?_eq_some.1 h
  have hc : p.children i = [child] := children_of_node? h
  rw [evaluate, dif_pos hi]
  simp only [hn]
  split
  · next heq =>
    have hhead := head?_of_attach heq
    rw [hc] at hhead
    cases hhead
    rfl
  · next heq =>
    rw [List.attach_eq_nil_iff, hc] at heq
    cases heq

theorem preorder_of_decorator {name : String} {rule : Decorator} {child : Nat}
    (h : p.node? i = some ⟨name, .decorator rule (some child)⟩) :
    p.preorder i = i :: p.preorder child := by
  rw [preorder_of_lt (lt_size_of_node? h), children_of_node? h]
  show i :: [child].flatMap p.preorder = _
  rw [List.flatMap_singleton]

theorem preorder_of_composite {name : String} {rule : Composite} {cs : List Nat}
    (h : p.node? i = some ⟨name, .composite rule cs⟩) :
    p.preorder i = i :: cs.flatMap p.preorder := by
  rw [preorder_of_lt (lt_size_of_node? h), children_of_node? h]
  rfl

/-- Nothing below the node with an index is reached twice, and every composite there makes of the
statuses that it can have seen what `judge` makes of them. -/
structure Follows (p : Plan C σ) (judge : Composite → List Status → Status) (i : Nat) : Prop where
  nodup : (p.preorder i).Nodup
  judges : ∀ j ∈ p.preorder i, ∀ name rule cs, p.node? j = some ⟨name, .composite rule cs⟩ →
    ∀ statuses, rule.Sees cs.length statuses → rule.judge statuses = judge rule statuses

theorem Follows.child {judge : Composite → List Status → Status} {c : Nat} (h : p.Follows judge i)
    (hc : c ∈ p.children i) : p.Follows judge c := by
  have hi : i < p.size := by
    by_contra hi
    rw [children_of_size_le (by omega)] at hc
    exact List.not_mem_nil hc
  refine ⟨(nodup_children_preorder hi h.nodup).1 c hc, fun j hj => h.judges j ?_⟩
  rw [preorder_of_lt hi]
  exact .tail _ (List.mem_flatMap.2 ⟨c, hc, hj⟩)

/-- What the cells of an evaluation make of the indices of their nodes. -/
def marks {n : Nat} (cells : Vector (Cell σ) n) (i : Nat) : Mark σ := ⟨i, (cells[i]?).getD .fresh⟩

theorem marks_of_lt {n : Nat} {cells : Vector (Cell σ) n} (h : i < n) :
    marks cells i = ⟨i, cells[i]⟩ := by
  simp [marks, h]

theorem marks_set {n : Nat} {cells : Vector (Cell σ) n} (h : i < n) (cell : Cell σ) :
    marks (cells.set i cell) i = ⟨i, cell⟩ := by
  simp [marks, h]

end Plan

namespace Plan

/-- Whether the node with an index is a leaf. -/
def isLeaf (p : Plan C σ) (i : Nat) : Bool :=
  match p.node? i with
  | some ⟨_, .leaf _⟩ => true
  | _ => false

/-- The leaves among nodes that were entered. -/
def leaves (p : Plan C σ) (entered : Array Nat) : List Nat := entered.toList.filter p.isLeaf

theorem leaves_enter {p : Plan C σ} {i : Nat} {n : Node C σ} (h : p.node? i = some n)
    (s : Evaluation C σ p.size) :
    p.leaves (s.enter i).entered =
      p.leaves s.entered ++ match n.kind with
        | .leaf _ => [i]
        | _ => [] := by
  simp only [leaves, Evaluation.enter, Array.toList_push, List.filter_append]
  rcases n with ⟨name, _ | _ | _⟩ <;> simp [isLeaf, h]

section IsLeaf

variable {p : Plan C σ} {i : Nat} {name : String}

theorem isLeaf_of_node? {action : Leaf C σ} (h : p.node? i = some ⟨name, .leaf action⟩) :
    p.isLeaf i = true := by
  rw [isLeaf, h]

theorem isLeaf_of_composite {rule : Composite} {cs : List Nat}
    (h : p.node? i = some ⟨name, .composite rule cs⟩) : p.isLeaf i = false := by
  rw [isLeaf, h]

theorem isLeaf_of_decorator {rule : Decorator} {child : Option Nat}
    (h : p.node? i = some ⟨name, .decorator rule child⟩) : p.isLeaf i = false := by
  rw [isLeaf, h]

theorem leaves_enter_of_inner (h : p.isLeaf i = false) (s : Evaluation C σ p.size) :
    p.leaves (s.enter i).entered = p.leaves s.entered := by
  simp [leaves, Evaluation.enter, h]

end IsLeaf

end Plan

/-- A leaf does to its cell what it does to what it remembers. -/
theorem Leaf.evaluate_eq {n : Nat} (action : Leaf C σ) (i : Nat) (h : i < n)
    (s : Evaluation C σ n) :
    action.evaluate i h s =
      (let r := action.respond s.cells[i] s.context
       (r.1, { s with context := r.2.1, cells := s.cells.set i r.2.2 })) := by
  cases action with
  | condition test => simp [evaluate, respond, Status.ofBool]
  | action start act => rfl
  | perform start act => rfl
  | wait seconds clock =>
    simp only [evaluate, respond, Evaluation.store]
    split <;> rfl

theorem Decorator.respond_eq_verdict (rule : Decorator) (status : Status) :
    rule.respond status = rule.verdict status := by
  cases rule <;> cases status <;> rfl

/-! ### Shapes in an arena -/

namespace Shape

mutual

/-- The shape lies in the plan, with its root at the index. -/
def At (p : Plan C σ) (mark : Nat → α) : Shape α C σ → Nat → Prop
  | .leaf m name action, i => p.node? i = some ⟨name, .leaf action⟩ ∧ m = mark i
  | .bare m name rule, i => p.node? i = some ⟨name, .decorator rule none⟩ ∧ m = mark i
  | .decorator m name rule child, i =>
    ∃ c, p.node? i = some ⟨name, .decorator rule (some c)⟩ ∧ m = mark i ∧ At p mark child c
  | .composite m name rule children, i =>
    ∃ cs, p.node? i = some ⟨name, .composite rule cs⟩ ∧ m = mark i ∧ AllAt p mark children cs

/-- The shapes lie in the plan, with their roots at the indices. -/
def AllAt (p : Plan C σ) (mark : Nat → α) : List (Shape α C σ) → List Nat → Prop
  | [], cs => cs = []
  | t :: ts, cs => ∃ c rest, cs = c :: rest ∧ At p mark t c ∧ AllAt p mark ts rest

end

variable {p : Plan C σ} {mark mark' : Nat → α} {i : Nat}

@[simp] theorem allAt_nil {cs : List Nat} : AllAt p mark [] cs ↔ cs = [] := by rw [AllAt]

theorem allAt_cons {t : Shape α C σ} {ts : List (Shape α C σ)} {cs : List Nat} :
    AllAt p mark (t :: ts) cs ↔
      ∃ c rest, cs = c :: rest ∧ t.At p mark c ∧ AllAt p mark ts rest := by
  rw [AllAt]

theorem At.lt_size {t : Shape α C σ} (h : t.At p mark i) : i < p.size := by
  cases t <;> rw [At] at h
  · exact Plan.lt_size_of_node? h.1
  · exact Plan.lt_size_of_node? h.1
  · obtain ⟨c, hn, -⟩ := h
    exact Plan.lt_size_of_node? hn
  · obtain ⟨cs, hn, -⟩ := h
    exact Plan.lt_size_of_node? hn

theorem allAt_iff {ts : List (Shape α C σ)} {cs : List Nat} :
    AllAt p mark ts cs ↔ List.Forall₂ (fun t c => t.At p mark c) ts cs := by
  induction ts generalizing cs with
  | nil => rw [allAt_nil, List.forall₂_nil_left_iff]
  | cons t ts ih =>
    rw [allAt_cons, List.forall₂_cons_left_iff]
    constructor
    · rintro ⟨c, rest, rfl, ht, hts⟩
      exact ⟨c, rest, ht, ih.1 hts, rfl⟩
    · rintro ⟨c, rest, ht, hts, rfl⟩
      exact ⟨c, rest, rfl, ht, ih.2 hts⟩

/-- What holds of every shape that lies at one of the indices holds of them in order. -/
theorem AllAt.forall₂ {ts : List (Shape α C σ)} {cs : List Nat} {r : Shape α C σ → Nat → Prop}
    (h : AllAt p mark ts cs) (hr : ∀ t ∈ ts, ∀ c ∈ cs, t.At p mark c → r t c) :
    List.Forall₂ r ts cs := by
  rw [allAt_iff] at h
  induction h with
  | nil => exact .nil
  | cons ht _ ih =>
    refine .cons (hr _ (.head _) _ (.head _) ht) (ih ?_)
    exact fun t hts c hcs => hr t (.tail _ hts) c (.tail _ hcs)

/-- Where a shape lies depends only on the marks of the nodes at and below its root. -/
theorem At.congr {t : Shape α C σ} (h : t.At p mark i)
    (heq : ∀ j ∈ p.preorder i, mark j = mark' j) : t.At p mark' i := by
  induction t generalizing i with
  | leaf m name action =>
    have hself := heq i (Plan.self_mem_preorder h.lt_size)
    rw [At] at h ⊢
    exact ⟨h.1, h.2.trans hself⟩
  | bare m name rule =>
    have hself := heq i (Plan.self_mem_preorder h.lt_size)
    rw [At] at h ⊢
    exact ⟨h.1, h.2.trans hself⟩
  | decorator m name rule child ih =>
    rw [At] at h ⊢
    obtain ⟨c, hn, hm, hc⟩ := h
    rw [Plan.preorder_of_decorator hn, List.forall_mem_cons] at heq
    exact ⟨c, hn, hm.trans heq.1, ih hc heq.2⟩
  | composite m name rule children ih =>
    rw [At] at h ⊢
    obtain ⟨cs, hn, hm, hcs⟩ := h
    rw [Plan.preorder_of_composite hn, List.forall_mem_cons] at heq
    refine ⟨cs, hn, hm.trans heq.1, allAt_iff.2 (hcs.forall₂ fun t ht c hc hat => ?_)⟩
    exact ih t ht hat fun j hj => heq.2 j (List.mem_flatMap.2 ⟨c, hc, hj⟩)

theorem AllAt.congr {ts : List (Shape α C σ)} {cs : List Nat} (h : AllAt p mark ts cs)
    (heq : ∀ j ∈ cs.flatMap p.preorder, mark j = mark' j) : AllAt p mark' ts cs :=
  allAt_iff.2 <| h.forall₂ fun _ _ c hc ht =>
    ht.congr fun j hj => heq j (List.mem_flatMap.2 ⟨c, hc, hj⟩)

/-- An evaluation of the node with an index, from `s` to `e`, does what the evaluation of a shape
with outcome `o` does, and leaves all cells alone that are not below the node. -/
structure Simulates (p : Plan C σ) (i : Nat) (s : Evaluation C σ p.size)
    (e : Status × Evaluation C σ p.size) (o : Outcome C σ) : Prop where
  status : e.1 = o.status
  context : e.2.context = o.context
  shape : o.shape.At p (Plan.marks e.2.cells) i
  frame : ∀ j, j ∉ p.preorder i → e.2.cells[j]? = s.cells[j]?
  invoked : p.leaves e.2.entered = p.leaves s.entered ++ o.invoked

/-- The same for an evaluation of some of the nodes with indices `cs`, in order. -/
structure SimulatesAll (p : Plan C σ) (cs : List Nat) (s : Evaluation C σ p.size)
    (e : List Status × Evaluation C σ p.size) (o : Outcomes C σ) : Prop where
  statuses : e.1 = o.statuses
  context : e.2.context = o.context
  shapes : AllAt p (Plan.marks e.2.cells) o.shapes cs
  frame : ∀ j, j ∉ cs.flatMap p.preorder → e.2.cells[j]? = s.cells[j]?
  invoked : p.leaves e.2.entered = p.leaves s.entered ++ o.invoked

section Judged

variable {judge : Composite → List Status → Status}

/-- Children that have nothing in common are evaluated in an arena as they are evaluated one after
the other as shapes. -/
theorem AllAt.simulates {ts : List (Shape (Mark σ) C σ)} {cs : List Nat}
    {s : Evaluation C σ p.size} (stops : Status → Bool)
    (ih : ∀ t ∈ ts, ∀ c, ∀ s : Evaluation C σ p.size, t.At p (Plan.marks s.cells) c →
      p.Follows judge c → Simulates p c s (p.evaluate c s) (t.run judge s.context))
    (h : AllAt p (Plan.marks s.cells) ts cs) (hd : ∀ c ∈ cs, p.Follows judge c)
    (hpair : cs.Pairwise fun c d => (p.preorder c).Disjoint (p.preorder d)) :
    SimulatesAll p cs s (Composite.collect stops (cs.map p.evaluate) s)
      (runAll judge ts stops s.context) := by
  induction ts generalizing cs s with
  | nil =>
    cases allAt_nil.1 h
    rw [runAll]
    exact ⟨rfl, rfl, h, fun _ _ => rfl, (List.append_nil _).symm⟩
  | cons t ts ihs =>
    obtain ⟨c, rest, rfl, ht, hts⟩ := allAt_cons.1 h
    obtain ⟨hdisj, hpair⟩ := List.pairwise_cons.1 hpair
    have h₁ := ih t (by simp) c s ht (hd c (by simp))
    rw [List.map_cons, runAll]
    simp only [Composite.collect]
    generalize p.evaluate c s = e at h₁ ⊢
    generalize t.run judge s.context = o at h₁ ⊢
    -- evaluating the first child leaves the cells of the others alone
    have hts' : AllAt p (Plan.marks e.2.cells) ts rest := by
      refine hts.congr fun j hj => ?_
      obtain ⟨d, hd, hj⟩ := List.mem_flatMap.1 hj
      have hcell := h₁.frame j fun hc => hdisj d hd hc hj
      simp only [Plan.marks, hcell]
    rw [h₁.status]
    split
    · refine ⟨rfl, h₁.context, allAt_cons.2 ⟨c, rest, rfl, h₁.shape, hts'⟩, fun j hj => ?_,
        h₁.invoked⟩
      exact h₁.frame j fun hc => hj (List.mem_flatMap.2 ⟨c, by simp, hc⟩)
    · have h₂ := ihs (fun t ht => ih t (.tail _ ht)) hts' (fun c hc => hd c (.tail _ hc)) hpair
      rw [h₁.context] at h₂
      generalize Composite.collect stops (rest.map p.evaluate) e.2 = e' at h₂ ⊢
      refine ⟨by rw [h₂.statuses], h₂.context, allAt_cons.2 ⟨c, rest, rfl, ?_, h₂.shapes⟩,
        fun j hj => ?_, ?_⟩
      · refine h₁.shape.congr fun j hj => ?_
        have hcell := h₂.frame j fun hrest => by
          obtain ⟨d, hd, hj'⟩ := List.mem_flatMap.1 hrest
          exact hdisj d hd hj hj'
        simp only [Plan.marks, hcell]
      · rw [List.flatMap_cons, List.mem_append, not_or] at hj
        rw [h₂.frame j hj.2, h₁.frame j hj.1]
      · rw [h₂.invoked, h₁.invoked, List.append_assoc]

theorem simulates_leaf {s : Evaluation C σ p.size} {name : String} {action : Leaf C σ}
    (hn : p.node? i = some ⟨name, .leaf action⟩) :
    Simulates p i s (p.evaluate i s)
      ((leaf (Plan.marks s.cells i) name action).run judge s.context) := by
  have hi := Plan.lt_size_of_node? hn
  rw [Plan.evaluate_leaf hn, Leaf.evaluate_eq, run, Plan.marks_of_lt hi]
  refine ⟨rfl, rfl, ?_, fun j hj => ?_, Plan.leaves_enter hn s⟩
  · rw [At]
    exact ⟨hn, (Plan.marks_set hi _).symm⟩
  · have hne : i ≠ j := fun hij => hj (hij ▸ Plan.self_mem_preorder hi)
    exact Vector.getElem?_set_ne hi hne

theorem simulates_bare {s : Evaluation C σ p.size} {name : String} {rule : Decorator}
    (hn : p.node? i = some ⟨name, .decorator rule none⟩) :
    Simulates p i s (p.evaluate i s)
      ((bare (Plan.marks s.cells i) name rule).run judge s.context) := by
  rw [Plan.evaluate_bare hn, run]
  refine ⟨rfl, rfl, ?_, fun _ _ => rfl, Plan.leaves_enter hn s⟩
  rw [At]
  exact ⟨hn, rfl⟩

section Decorators

variable {s : Evaluation C σ p.size} {name : String} {c : Nat} {child : Shape (Mark σ) C σ}

/-- A repeater writes its count after its child was evaluated, and outside of it. -/
theorem simulates_repeater {count : Nat}
    (hn : p.node? i = some ⟨name, .decorator (.repeater count) (some c)⟩) (hself : i ∉ p.preorder c)
    (hc : child.At p (Plan.marks s.cells) c)
    (hchild : Simulates p c (s.enter i) (p.evaluate c (s.enter i)) (child.run judge s.context)) :
    Simulates p i s (p.evaluate i s)
      ((decorator (Plan.marks s.cells i) name (.repeater count) child).run judge s.context) := by
  have hi := Plan.lt_size_of_node? hn
  have hleaves := Plan.leaves_enter hn s
  rw [Plan.evaluate_decorator hn, Plan.marks_of_lt hi, run]
  simp only [Decorator.evaluate]
  by_cases hcount : count ≤ s.cells[i].times
  · rw [if_pos hcount, if_pos (show count ≤ (s.enter i).cells[i].times from hcount)]
    refine ⟨rfl, rfl, ?_, fun _ _ => rfl, hleaves⟩
    rw [At]
    exact ⟨c, hn, (Plan.marks_of_lt hi).symm, hc⟩
  · rw [if_neg hcount, if_neg (show ¬count ≤ (s.enter i).cells[i].times from hcount)]
    have hcell := hchild.frame i hself
    generalize p.evaluate c (s.enter i) = e at hchild hcell ⊢
    have hcell : e.2.cells[i] = s.cells[i] := by
      rw [Vector.getElem?_eq_getElem hi, Vector.getElem?_eq_getElem hi] at hcell
      exact Option.some.inj hcell
    refine ⟨rfl, hchild.context, ?_, fun j hj => ?_, ?_⟩
    · rw [At]
      refine ⟨c, hn, ?_, hchild.shape.congr fun j hj => ?_⟩
      · exact (Plan.marks_set hi _).symm.trans (by rw [hcell]; rfl)
      · have hne : i ≠ j := fun hij => hself (hij ▸ hj)
        simp only [Plan.marks, Evaluation.store, Vector.getElem?_set_ne hi hne]
    · rw [Plan.preorder_of_decorator hn, List.mem_cons, not_or] at hj
      exact (Vector.getElem?_set_ne hi (Ne.symm hj.1)).trans (hchild.frame j hj.2)
    · show p.leaves e.2.entered = _
      rw [hchild.invoked, hleaves, List.append_nil]

theorem simulates_decorator {rule : Decorator} (hrule : ∀ count, rule ≠ .repeater count)
    (hn : p.node? i = some ⟨name, .decorator rule (some c)⟩) (hself : i ∉ p.preorder c)
    (hchild : Simulates p c (s.enter i) (p.evaluate c (s.enter i)) (child.run judge s.context)) :
    Simulates p i s (p.evaluate i s)
      ((decorator (Plan.marks s.cells i) name rule child).run judge s.context) := by
  have hcell := hchild.frame i hself
  rw [Plan.evaluate_decorator hn]
  cases rule with
  | repeater count => exact absurd rfl (hrule count)
  | _ =>
    simp only [Decorator.evaluate, run]
    refine ⟨?_, hchild.context, ?_, fun j hj => ?_, ?_⟩
    · rw [Decorator.respond_eq_verdict, hchild.status]
    · rw [At]
      exact ⟨c, hn, by simp only [Plan.marks, hcell]; rfl, hchild.shape⟩
    · rw [Plan.preorder_of_decorator hn, List.mem_cons, not_or] at hj
      exact hchild.frame j hj.2
    · rw [hchild.invoked, Plan.leaves_enter hn s, List.append_nil]

end Decorators

/-- An arena evaluates a shape that lies in it as the shape evaluates itself, if nothing below its
root is reached twice and its composites judge alike. -/
theorem At.simulates {t : Shape (Mark σ) C σ} {s : Evaluation C σ p.size}
    (h : t.At p (Plan.marks s.cells) i) (hf : p.Follows judge i) :
    Simulates p i s (p.evaluate i s) (t.run judge s.context) := by
  induction t generalizing i s with
  | leaf m name action =>
    rw [At] at h
    obtain ⟨hn, rfl⟩ := h
    exact simulates_leaf hn
  | bare m name rule =>
    rw [At] at h
    obtain ⟨hn, rfl⟩ := h
    exact simulates_bare hn
  | decorator m name rule child ih =>
    rw [At] at h
    obtain ⟨c, hn, rfl, hc⟩ := h
    -- the child does not lead back to the decorator, so it leaves its cell alone
    have hself : i ∉ p.preorder c :=
      (List.nodup_cons.1 (Plan.preorder_of_decorator hn ▸ hf.nodup)).1
    have hmem : c ∈ p.children i := Plan.children_of_node? hn ▸ List.mem_singleton_self c
    have hchild := ih (s := s.enter i) hc (hf.child hmem)
    cases rule with
    | repeater count => exact simulates_repeater hn hself hc hchild
    | _ => exact simulates_decorator (fun _ => Decorator.noConfusion) hn hself hchild
  | composite m name rule children ih =>
    have hi := h.lt_size
    have hpair := (Plan.nodup_children_preorder hi hf.nodup).2
    rw [At] at h
    obtain ⟨cs, hn, rfl, hcs⟩ := h
    have hc : p.children i = cs := Plan.children_of_node? hn
    have hpre := Plan.preorder_of_composite hn
    have hself : i ∉ cs.flatMap p.preorder := (List.nodup_cons.1 (hpre ▸ hf.nodup)).1
    have hfs : ∀ c ∈ cs, p.Follows judge c := fun c hmem => hf.child (hc ▸ hmem)
    rw [hc] at hpair
    have hall := AllAt.simulates (s := s.enter i) rule.stops (fun t ht c s => ih t ht) hcs hfs hpair
    have hsees := Composite.sees_collect rule (cs.map p.evaluate) (s.enter i)
    rw [List.length_map] at hsees
    have hjudge := hf.judges i (Plan.self_mem_preorder hi) name rule cs hn _ hsees
    rw [Plan.evaluate_composite hn, Composite.run_eq, run]
    generalize Composite.collect rule.stops (cs.map p.evaluate) (s.enter i) = e at hall hjudge ⊢
    refine ⟨?_, hall.context, ?_, fun j hj => ?_, ?_⟩
    · rw [hjudge, hall.statuses]
      rfl
    · rw [At]
      have hcell := hall.frame i hself
      exact ⟨cs, hn, by simp only [Plan.marks, hcell]; rfl, hall.shapes⟩
    · rw [hpre, List.mem_cons, not_or] at hj
      exact hall.frame j hj.2
    · rw [hall.invoked, Plan.leaves_enter hn]
      simp [Evaluation.enter]

end Judged
end Shape

/-! ### Unfoldings -/

namespace Plan

variable {p : Plan C σ} {mark : Nat → α} {i : Nat} {name : String}

theorem unfold_leaf {action : Leaf C σ} (hi : i < p.size)
    (hn : p.node? i = some ⟨name, .leaf action⟩) :
    p.unfold mark i hi = .leaf (mark i) name action := by
  obtain ⟨_, hn⟩ := node?_eq_some.1 hn
  rw [unfold]
  simp only [hn]

theorem unfold_bare {rule : Decorator} (hi : i < p.size)
    (hn : p.node? i = some ⟨name, .decorator rule none⟩) :
    p.unfold mark i hi = .bare (mark i) name rule := by
  have hc : p.children i = [] := children_of_node? hn
  obtain ⟨_, hn⟩ := node?_eq_some.1 hn
  rw [unfold]
  simp only [hn]
  split
  · next heq =>
    have hhead := head?_of_attach heq
    rw [hc] at hhead
    cases hhead
  · rfl

theorem unfold_decorator {rule : Decorator} {c : Nat} (hi : i < p.size)
    (hn : p.node? i = some ⟨name, .decorator rule (some c)⟩) (hc : c < p.size) :
    p.unfold mark i hi = .decorator (mark i) name rule (p.unfold mark c hc) := by
  have hchildren : p.children i = [c] := children_of_node? hn
  obtain ⟨_, hn⟩ := node?_eq_some.1 hn
  rw [unfold]
  simp only [hn]
  split
  · next heq =>
    have hhead := head?_of_attach heq
    rw [hchildren] at hhead
    cases hhead
    rfl
  · next heq =>
    rw [List.attach_eq_nil_iff, hchildren] at heq
    cases heq

theorem unfold_composite {rule : Composite} {cs : List Nat} (hi : i < p.size)
    (hn : p.node? i = some ⟨name, .composite rule cs⟩) (hcs : ∀ c ∈ cs, c < p.size) :
    p.unfold mark i hi = .composite (mark i) name rule (cs.pmap (p.unfold mark) hcs) := by
  have hchildren : p.children i = cs := children_of_node? hn
  obtain ⟨_, hn⟩ := node?_eq_some.1 hn
  rw [unfold]
  simp only [hn]
  subst hchildren
  rw [List.pmap_eq_map_attach]

/-- The unfolding of a node lies at its index. -/
theorem unfold_at (hi : i < p.size) : (p.unfold mark i hi).At p mark i := by
  induction i using p.child_induction with
  | step i ih =>
    obtain ⟨⟨name, kind⟩, hn⟩ : ∃ n, p.node? i = some n := ⟨_, node?_eq_some.2 ⟨hi, rfl⟩⟩
    have hchildren := children_of_node? hn
    have hlt : ∀ c ∈ p.children i, c < p.size := fun c hc => (lt_of_mem_children hc).2
    rw [hchildren] at ih hlt
    cases kind with
    | leaf action =>
      rw [unfold_leaf hi hn, Shape.At]
      exact ⟨hn, rfl⟩
    | decorator rule child =>
      cases child with
      | none =>
        rw [unfold_bare hi hn, Shape.At]
        exact ⟨hn, rfl⟩
      | some c =>
        have hc : c ∈ (⟨name, .decorator rule (some c)⟩ : Node C σ).children := .head _
        rw [unfold_decorator hi hn (hlt c hc), Shape.At]
        exact ⟨c, hn, rfl, ih c hc _⟩
    | composite rule cs =>
      rw [unfold_composite hi hn hlt, Shape.At]
      refine ⟨cs, hn, rfl, ?_⟩
      clear hn hchildren
      induction cs with
      | nil => exact Shape.allAt_nil.2 rfl
      | cons c cs ihs =>
        refine Shape.allAt_cons.2 ⟨c, cs, rfl, ih c (.head _) _, ?_⟩
        exact ihs (fun d hd => ih d (.tail _ hd)) fun d hd => hlt d (.tail _ hd)

end Plan

/-- What lies at an index is the unfolding of the node. -/
theorem Shape.At.unfold_eq {p : Plan C σ} {mark : Nat → α} {i : Nat} {t : Shape α C σ}
    (h : t.At p mark i) (hi : i < p.size) : p.unfold mark i hi = t := by
  induction t generalizing i with
  | leaf m name action =>
    rw [At] at h
    rw [Plan.unfold_leaf hi h.1, h.2]
  | bare m name rule =>
    rw [At] at h
    rw [Plan.unfold_bare hi h.1, h.2]
  | decorator m name rule child ih =>
    rw [At] at h
    obtain ⟨c, hn, hm, hc⟩ := h
    rw [Plan.unfold_decorator hi hn hc.lt_size, ih hc, hm]
  | composite m name rule children ih =>
    rw [At] at h
    obtain ⟨cs, hn, hm, hcs⟩ := h
    have hlt : ∀ c ∈ cs, c < p.size := by
      intro c hc
      have hchild : c ∈ p.children i := Plan.children_of_node? hn ▸ hc
      exact (Plan.lt_of_mem_children hchild).2
    rw [Plan.unfold_composite hi hn hlt, hm]
    congr 1
    clear hn
    induction children generalizing cs with
    | nil =>
      cases allAt_nil.1 hcs
      rfl
    | cons t ts ihs =>
      obtain ⟨c, rest, rfl, ht, hts⟩ := allAt_cons.1 hcs
      rw [List.pmap_cons, ih t (by simp) ht]
      rw [ihs (fun t ht => ih t (.tail _ ht)) rest hts fun d hd => hlt d (.tail _ hd)]

theorem Tree.shape?_eq_some {t : Tree C σ} {r : Nat} (hroot : t.plan.root = some r)
    (hr : r < t.plan.size) : t.shape? = some (t.plan.unfold t.mark r hr) := by
  rw [shape?, hroot]
  exact dif_pos hr

end Guardhouse
