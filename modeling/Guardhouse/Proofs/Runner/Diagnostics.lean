import Guardhouse.Proofs.Runner.Session

/-!
# Diagnostics of a runner

The debug flag and the sink of a runner are written to and never read for anything else: two
sessions that have all the rest in common still have it after calls that differ only in how the flag
is set (`Session.Matches.after`).

`related_foldl` is what any such argument comes to: a relation between two runs that one call on
both keeps, and that no silent call on either can break.
-/

namespace Guardhouse

/-- Two runs stay related if a call on both keeps the relation and a silent call on either does, and
the runs have all calls in common that are not silent. -/
theorem related_foldl {A B Op : Type} {r : A → B → Prop} {f : A → Op → A} {g : B → Op → B}
    {silent : Op → Bool} (both : ∀ a b op, r a b → r (f a op) (g b op))
    (left : ∀ a b op, silent op = true → r a b → r (f a op) b)
    (right : ∀ a b op, silent op = true → r a b → r a (g b op)) {ops ops' : List Op}
    (h : ops.filter (fun op => !silent op) = ops'.filter (fun op => !silent op)) {a : A} {b : B}
    (hab : r a b) : r (ops.foldl f a) (ops'.foldl g b) := by
  have hright : ∀ (ops' : List Op) (a : A) (b : B), (∀ op ∈ ops', silent op = true) → r a b →
      r a (ops'.foldl g b) := by
    intro ops' a b hsilent hab
    induction ops' generalizing b with
    | nil => exact hab
    | cons op ops' ih =>
      have hop := hsilent op (by simp)
      exact ih _ (fun op h => hsilent op (by simp [h])) (right a b op hop hab)
  induction ops generalizing ops' a b with
  | nil =>
    apply hright ops' a b _ hab
    intro op hop
    have hnone := List.filter_eq_nil_iff.1 h.symm op hop
    simpa using hnone
  | cons op ops ih =>
    by_cases hop : silent op = true
    · rw [List.filter_cons_of_neg (by simpa using hop)] at h
      exact ih h (left a b op hop hab)
    · -- the second run comes to the same call behind silent ones
      rw [List.filter_cons_of_pos (by simpa using hop)] at h
      obtain ⟨skipped, rest, rfl, hskipped, -, hrest⟩ := List.filter_eq_cons_iff.1 h.symm
      rw [List.foldl_append]
      apply ih hrest.symm
      apply both
      apply hright skipped a b _ hab
      intro op hop
      simpa using hskipped op hop

namespace Runner

variable {C σ S S' : Type}

/-- Whether a call only concerns the debug flag. -/
def Operation.isDebug (op : Operation C σ) : Bool := op.debug?.isSome

namespace Session

/-- Two sessions that differ at most in the debug flag and the sink. -/
structure Matches (s : Session C σ S) (s' : Session C σ S') : Prop where
  tree : s.runner.tree = s'.runner.tree
  ticks : s.runner.ticks = s'.runner.ticks
  last : s.runner.last = s'.runner.last
  context : s.context = s'.context

namespace Matches

variable {s : Session C σ S} {s' : Session C σ S'}

theorem symm (h : s.Matches s') : s'.Matches s :=
  ⟨h.tree.symm, h.ticks.symm, h.last.symm, h.context.symm⟩

variable [Trace.Sink S]

theorem debug_left (h : s.Matches s') {op : Operation C σ} (hop : op.isDebug = true) :
    (s.perform op).2.Matches s' := by
  cases op with
  | setDebug => exact ⟨h.tree, h.ticks, h.last, h.context⟩
  | _ => simp [Operation.isDebug, Operation.debug?] at hop

variable [Trace.Sink S']

/-- A call returns the same and changes the same. -/
theorem perform (h : s.Matches s') (op : Operation C σ) :
    (s.perform op).1 = (s'.perform op).1 ∧ (s.perform op).2.Matches (s'.perform op).2 := by
  obtain ⟨⟨tree, debug, ticks, last, sink⟩, context⟩ := s
  obtain ⟨⟨tree', debug', ticks', last', sink'⟩, context'⟩ := s'
  obtain ⟨rfl, rfl, rfl, rfl⟩ : tree = tree' ∧ ticks = ticks' ∧ last = last' ∧ context = context' :=
    ⟨h.tree, h.ticks, h.last, h.context⟩
  cases op with
  | tick update =>
    obtain ⟨hstatus, hcontext, hrunner⟩ :=
      tick_eq (⟨tree, debug, ticks, last, sink⟩ : Runner C σ S) (update context)
    obtain ⟨hstatus', hcontext', hrunner'⟩ :=
      tick_eq (⟨tree, debug', ticks, last, sink'⟩ : Runner C σ S') (update context)
    simp only [Session.perform, hstatus, hstatus', hcontext, hcontext', hrunner, hrunner']
    exact ⟨trivial, rfl, rfl, rfl, rfl⟩
  | _ => exact ⟨rfl, rfl, rfl, rfl, rfl⟩

/-- Sessions match after calls that differ only in how the debug flag is set. -/
theorem after (h : s.Matches s') {ops ops' : List (Operation C σ)}
    (hops : ops.filter (fun op => !op.isDebug) = ops'.filter (fun op => !op.isDebug)) :
    (s.after ops).Matches (s'.after ops') := by
  refine related_foldl ?_ ?_ ?_ hops h
  · intro s s' op h
    exact (h.perform op).2
  · intro s s' op hop h
    exact h.debug_left hop
  · intro s s' op hop h
    exact (h.symm.debug_left hop).symm

end Matches
end Session
end Runner
end Guardhouse
