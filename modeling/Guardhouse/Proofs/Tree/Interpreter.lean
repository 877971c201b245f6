import Guardhouse.Proofs.Tree.Simulation
import Mathlib.Data.List.Perm.Subperm

/-!
# The interpreter of an outline

Whatever an outline looks like, evaluating the tree that it builds is evaluating what the root of the
tree unfolds to, by recursion on the children (`Tree.evaluate_ofLines`). The verdicts on the
children are the ones they should be (`Composite.verdict`) unless the root leads to a parallel whose
threshold wraps around. Such a parallel goes on running where it should fail
(`Tree.evaluate_ofLines_wrapped`). No outline with thresholds up to `2 ^ 63` has one
(`Plan.withinReach_ofLines`).
-/

namespace Guardhouse

variable {C σ : Type}

/-- Evaluates what the root of a tree unfolds to; a tree without a root fails. Gives the status, the
context, the tree with what it remembers then, and the leaves invoked. -/
def Shape.interpret (judge : Composite → List Status → Status)
    (root : Option (Shape (Mark σ) C σ)) (c : C) :
    Status × C × Option (Shape (Mark σ) C σ) × List Nat :=
  match root with
  | none => (.failure, c, none, [])
  | some t =>
    let o := t.run judge c
    (o.status, o.context, some o.shape, o.invoked)

/-! ### Thresholds within reach -/

namespace Composite

variable {rule : Composite} {n : Nat} {statuses : List Status}

theorem judge_eq_reckon_of_sees (h : rule.Sees n statuses) (hn : n < 2 ^ 63) :
    rule.judge statuses = rule.reckon statuses :=
  judge_eq_reckon rule (h.length_le.trans_lt hn)

theorem judge_eq_verdict_of_sees (h : rule.Sees n statuses) (hn : n < 2 ^ 63)
    (hreach : ¬rule.Overreaches n) : rule.judge statuses = rule.verdict statuses := by
  rw [judge_eq_reckon_of_sees h hn]
  cases rule with
  | selector => rfl
  | sequence => rfl
  | parallel required =>
    rw [reckon, h.length_eq required rfl, if_neg hreach]

end Composite

/-! ### Composites as they are written -/

namespace Builder

variable {b : Builder C σ} {i : Nat} {name : String} {rule : Composite} {cs : List Nat}

theorem composite_of_node?_add {n : Node C σ} {hn : n.children = []}
    (h : (b.add n hn).plan.node? i = some ⟨name, .composite rule cs⟩) :
    n = ⟨name, .composite rule []⟩ ∨ ∃ cs', b.plan.node? i = some ⟨name, .composite rule cs'⟩ := by
  have hpush : ∀ cs', (b.plan.push n hn).node? i = some ⟨name, .composite rule cs'⟩ →
      n = ⟨name, .composite rule []⟩ ∨
        ∃ cs', b.plan.node? i = some ⟨name, .composite rule cs'⟩ := by
    intro cs' hcs'
    rw [Plan.node?_push] at hcs'
    split at hcs'
    · cases Option.some.inj hcs'
      have hcs' : cs' = [] := hn
      exact .inl (by rw [hcs'])
    · exact .inr ⟨cs', hcs'⟩
  cases hslots : b.slots with
  | nil =>
    rw [plan_add_of_nil hn hslots] at h
    exact hpush cs h
  | cons slot rest =>
    rw [plan_add_of_cons hn hslots, Plan.node?_attach] at h
    split at h
    · -- the parent keeps its rule with one more child
      obtain ⟨⟨name', kind⟩, hm, hadopt⟩ := Option.map_eq_some_iff.1 h
      cases kind with
      | composite rule' cs' =>
        cases hadopt
        exact hpush cs' hm
      | decorator rule' child => cases hadopt
      | leaf action => cases hadopt
    · exact hpush cs h

theorem composite_of_node?_write {line : Line C σ}
    (h : (b.write line).plan.node? i = some ⟨name, .composite rule cs⟩) :
    line = .composite name rule ∨ ∃ cs', b.plan.node? i = some ⟨name, .composite rule cs'⟩ := by
  cases line with
  | composite name' rule' =>
    refine (composite_of_node?_add h).imp (fun heq => ?_) id
    cases heq
    rfl
  | decorator name' rule' =>
    refine (composite_of_node?_add h).imp (fun heq => ?_) id
    cases heq
  | leaf name' action =>
    refine (composite_of_node?_add h).imp (fun heq => ?_) id
    cases heq
  | close => exact .inr ⟨cs, h⟩

end Builder

namespace Plan

variable {p : Plan C σ} {r : Nat}

/-- No parallel that the root leads to has a threshold that wraps around. -/
def WithinReach (p : Plan C σ) : Prop :=
  ∀ i name rule cs, p.Reaches i → p.node? i = some ⟨name, .composite rule cs⟩ →
    ¬rule.Overreaches cs.length

/-- The children of a composite are nodes of the plan, each listed once. -/
theorem length_children_lt (hnodup : ∀ i, (p.children i).Nodup) (hsize : p.size < 2 ^ 63) {i : Nat}
    {name : String} {rule : Composite} {cs : List Nat}
    (hn : p.node? i = some ⟨name, .composite rule cs⟩) : cs.length < 2 ^ 63 := by
  have hchildren : p.children i = cs := children_of_node? hn
  have hsubset : cs ⊆ List.range p.size := fun c hc =>
    List.mem_range.2 (lt_of_mem_children (hchildren ▸ hc)).2
  calc cs.length ≤ (List.range p.size).length :=
        ((hchildren ▸ hnodup i).subperm hsubset).length_le
    _ = p.size := List.length_range
    _ < 2 ^ 63 := hsize

/-- A composite of an outline has been written by one of the lines. -/
theorem mem_of_node?_ofLines {lines : List (Line C σ)} {i : Nat} {name : String} {rule : Composite}
    {cs : List Nat} (hn : (ofLines lines).node? i = some ⟨name, .composite rule cs⟩) :
    .composite name rule ∈ lines := by
  induction lines using List.reverseRecOn generalizing cs with
  | nil =>
    have hlt := lt_size_of_node? hn
    exact absurd hlt (Nat.not_lt_zero i)
  | append_singleton lines line ih =>
    rw [ofLines_concat] at hn
    rcases Builder.composite_of_node?_write hn with rfl | ⟨cs', hn'⟩
    · simp
    · exact List.mem_append_left _ (ih hn')

/-- Thresholds up to the first that no signed word holds are within reach. -/
theorem withinReach_ofLines {lines : List (Line C σ)}
    (h : ∀ name required, .composite name (.parallel required) ∈ lines →
      required.toNat ≤ 2 ^ 63) : (ofLines lines).WithinReach := by
  intro i name rule cs _ hn
  cases rule with
  | selector => exact id
  | sequence => exact id
  | parallel required =>
    have hle := h name required (mem_of_node?_ofLines hn)
    show ¬2 ^ 63 + cs.length < required.toNat
    omega

variable (lines : List (Line C σ))

theorem nodup_preorder_ofLines {r : Nat} (hr : (ofLines lines).root = some r) :
    ((ofLines lines).preorder r).Nodup := by
  rw [show (ofLines lines).preorder r = _ from (tidy_ofLines lines).preorder r hr]
  exact List.nodup_range'

theorem follows_reckon (hsize : (ofLines lines).size < 2 ^ 63) {r : Nat}
    (hr : (ofLines lines).root = some r) : (ofLines lines).Follows Composite.reckon r := by
  refine ⟨nodup_preorder_ofLines lines hr, fun j _ name rule cs hn statuses hsees => ?_⟩
  exact Composite.judge_eq_reckon_of_sees hsees
    (length_children_lt (tidy_ofLines lines).nodup_children hsize hn)

theorem follows_verdict (hsize : (ofLines lines).size < 2 ^ 63)
    (hreach : (ofLines lines).WithinReach) {r : Nat} (hr : (ofLines lines).root = some r) :
    (ofLines lines).Follows Composite.verdict r := by
  refine ⟨nodup_preorder_ofLines lines hr, fun j hj name rule cs hn statuses hsees => ?_⟩
  have hlead : (ofLines lines).Leads r j :=
    (mem_preorder ((tidy_ofLines lines).root_lt r hr)).1 hj
  exact Composite.judge_eq_verdict_of_sees hsees
    (length_children_lt (tidy_ofLines lines).nodup_children hsize hn)
    (hreach j name rule cs ⟨r, hr, hlead⟩ hn)

end Plan

/-! ### Trees -/

namespace Tree

section Evaluate

variable {t : Tree C σ} {judge : Composite → List Status → Status}

/-- A tree whose composites judge as `judge` does is evaluated as what its root unfolds to, and the
nodes that the root does not lead to are left alone. -/
theorem evaluate_eq_interpret (h : ∀ r, t.plan.root = some r → r < t.plan.size)
    (hf : ∀ {r}, t.plan.root = some r → t.plan.Follows judge r) (c : C) :
    let o := t.evaluate c
    (o.status, o.context, o.tree.shape?, t.plan.leaves o.entered) =
        Shape.interpret judge t.shape? c ∧
      ∀ j, ¬t.plan.Reaches j → o.tree.cell? j = t.cell? j := by
  intro o
  cases hroot : t.plan.root with
  | none =>
    have hunfold : t.shape? = none := by rw [shape?, hroot]; rfl
    have ho : o = { status := .failure, context := c, tree := t, entered := #[] } := by
      show t.evaluate c = _
      rw [evaluate, hroot]
    rw [hunfold, ho, hunfold]
    exact ⟨rfl, fun _ _ => rfl⟩
  | some r =>
    have hr := h r hroot
    have ho : o = t.evaluateAt r c := by
      show t.evaluate c = _
      rw [evaluate, hroot]
    have hat : (t.plan.unfold t.mark r hr).At t.plan (Plan.marks t.cells) r := Plan.unfold_at hr
    have hsim := hat.simulates (s := { context := c, cells := t.cells }) (hf hroot)
    have hunfold := shape?_eq_some hroot hr
    have hunfold' := shape?_eq_some (t := t.evaluateAt r c |>.tree) hroot hr
    have hinvoked : t.plan.leaves (t.evaluateAt r c).entered = [] ++ _ := hsim.invoked
    have hshape := hsim.shape.unfold_eq hr
    rw [hunfold, ho, hunfold', hinvoked, List.nil_append]
    refine ⟨?_, fun j hj => hsim.frame j fun hmem => ?_⟩
    · exact Prod.ext hsim.status <| Prod.ext hsim.context <| Prod.ext (congrArg some hshape) rfl
    · exact hj ⟨r, hroot, (Plan.mem_preorder hr).1 hmem⟩

theorem shape?_eq_none (h : ∀ r, t.plan.root = some r → r < t.plan.size) :
    t.shape? = none ↔ t.plan.root = none := by
  cases hroot : t.plan.root with
  | none =>
    rw [shape?, hroot]
    exact ⟨fun _ => rfl, fun _ => rfl⟩
  | some r =>
    rw [shape?_eq_some hroot (h r hroot)]
    simp

end Evaluate

/-- However an outline is nested and whatever the nodes of its tree remember, evaluating the arena
is evaluating what the root unfolds to: it has the same status, leaves the same context, invokes the
same leaves in the same order, and remembers the same. The verdicts are those that composites should
come to, but a parallel whose threshold wraps around goes on running; so nothing is different if the
root leads to no such parallel. The plan and the nodes that the root does not lead to stay as they
are. -/
theorem evaluate_ofLines (lines : List (Line C σ)) (hsize : (Plan.ofLines lines).size < 2 ^ 63)
    (cells : Vector (Cell σ) (Plan.ofLines lines).size) (c : C) :
    let t : Tree C σ := ⟨.ofLines lines, cells⟩
    let o := t.evaluate c
    let outcome := (o.status, o.context, o.tree.shape?, t.plan.leaves o.entered)
    outcome = Shape.interpret Composite.reckon t.shape? c ∧
      (t.plan.WithinReach → outcome = Shape.interpret Composite.verdict t.shape? c) ∧
      (t.shape? = none ↔ t.plan.root = none) ∧ o.tree.plan = t.plan ∧
        ∀ j, ¬t.plan.Reaches j → o.tree.cell? j = t.cell? j := by
  intro t o outcome
  have hroot : ∀ r, t.plan.root = some r → r < t.plan.size := (Plan.tidy_ofLines lines).root_lt
  obtain ⟨hreckon, hframe⟩ :=
    evaluate_eq_interpret hroot (fun hr => Plan.follows_reckon lines hsize hr) c
  refine ⟨hreckon, fun hreach => ?_, shape?_eq_none hroot, ?_, hframe⟩
  · exact (evaluate_eq_interpret hroot (fun hr => Plan.follows_verdict lines hsize hreach hr) c).1
  · exact plan_evaluate t c

/-- An alarm that is raised once, behind a door that is not open. -/
theorem evaluate_ofLines_alarm :
    let lines : List (Line Nat Unit) :=
      [.composite "Guard" .selector, .decorator "Closed" .inverter,
        .leaf "Open" (.act fun n => (.success, n + 1)), .composite "Alarm" (.parallel 1),
        .decorator "Once" (.repeater 1), .leaf "Ring" (.act fun n => (.failure, n + 2)),
        .leaf "Call" (.act fun n => (.success, n + 4)), .close, .close]
    let t : Tree Nat Unit := ⟨.ofLines lines, .replicate _ .fresh⟩
    let o := t.evaluate 0
    let outcome := (o.status, o.context, o.tree.shape?, t.plan.leaves o.entered)
    (Plan.ofLines lines).size < 2 ^ 63 ∧ (Plan.ofLines lines).WithinReach ∧
      outcome = Shape.interpret Composite.verdict t.shape? 0 ∧
      o.status = .success ∧ o.context = 7 ∧ t.plan.leaves o.entered = [2, 5, 6] := by
  intro lines t o outcome
  have hsize : (Plan.ofLines lines).size < 2 ^ 63 := by decide +kernel
  have hreach : (Plan.ofLines lines).WithinReach := by
    refine Plan.withinReach_ofLines fun name required hmem => ?_
    obtain ⟨-, rfl⟩ : name = "Alarm" ∧ required = 1 := by simpa [lines] using hmem
    decide
  have hverdict : outcome = Shape.interpret Composite.verdict t.shape? 0 := by
    clear_value lines
    exact (evaluate_ofLines lines hsize _ 0).2.1 hreach
  exact ⟨hsize, hreach, hverdict, by decide +kernel, by decide +kernel, by decide +kernel⟩

/-- With the largest threshold there is, a parallel whose only child fails goes on running. -/
theorem evaluate_ofLines_wrapped :
    let t : Tree Unit Unit := .ofLines
      [.composite "All" (.parallel 18446744073709551615),
        .leaf "Only" (.act fun c => (.failure, c)), .close]
    (t.evaluate ()).status = .running ∧
      (Shape.interpret Composite.verdict t.shape? ()).1 = .failure := by
  intro t
  exact ⟨by decide +kernel, by decide +kernel⟩

end Tree
end Guardhouse
