import Guardhouse.Proofs.Tree.Simulation

/-!
# Parallels

A parallel evaluates its children one after the other, each once, and then compares
(`Plan.parallel_resolves`). What it makes of their statuses is reckoned with signed words: with a
threshold that is too large for them it can no longer fail, and goes on running for ever
(`Plan.running_out_of_reach`).
-/

namespace Guardhouse
namespace Composite

variable {required : UInt64} {statuses : List Status}

/-- A parallel with a threshold that wraps around runs, and any other judges as it should. -/
theorem judge_parallel_eq (hlength : statuses.length < 2 ^ 63) :
    judge (.parallel required) statuses =
      if 2 ^ 63 + statuses.length < required.toNat then .running
      else verdict (.parallel required) statuses := judge_eq_reckon _ hlength

theorem judge_parallel_eq_success (required : UInt64) (hlength : statuses.length < 2 ^ 63) :
    judge (.parallel required) statuses = .success ↔
      required.toNat ≤ statuses.count .success := by
  have hfew : statuses.count .success ≤ statuses.length := List.count_le_length
  rw [judge_parallel_eq hlength]
  split
  · next hwraps =>
    simp only [reduceCtorEq, false_iff]
    omega
  · exact verdict_parallel_eq_success required statuses

theorem judge_parallel_eq_failure (required : UInt64) (hlength : statuses.length < 2 ^ 63) :
    judge (.parallel required) statuses = .failure ↔
      statuses.count .success + statuses.count .running < required.toNat ∧
        required.toNat ≤ 2 ^ 63 + statuses.length := by
  rw [judge_parallel_eq hlength]
  split
  · next hwraps =>
    simp only [reduceCtorEq, false_iff]
    omega
  · next hwithin =>
    rw [verdict_parallel_eq_failure, and_iff_left (Nat.le_of_not_lt hwithin)]

theorem judge_parallel_eq_running (required : UInt64) (hlength : statuses.length < 2 ^ 63) :
    judge (.parallel required) statuses = .running ↔
      statuses.count .success < required.toNat ∧
        (required.toNat ≤ statuses.count .success + statuses.count .running ∨
          2 ^ 63 + statuses.length < required.toNat) := by
  have hfew : statuses.count .success ≤ statuses.length := List.count_le_length
  rw [judge_parallel_eq hlength]
  split
  · next hwraps =>
    simp only [true_iff]
    omega
  · next hwithin => rw [verdict_parallel_eq_running, or_iff_left hwithin]

end Composite

/-! ### Parallels in an arena -/

namespace Plan

variable {C σ : Type}

/-- The nodes with the indices are evaluated one after the other, each once and in the state that
the one before it has left. -/
inductive InTurn (p : Plan C σ) :
    List Nat → Evaluation C σ p.size → List Status → Evaluation C σ p.size → Prop
  | nil (s : Evaluation C σ p.size) : InTurn p [] s [] s
  | cons {c : Nat} {cs : List Nat} {s s' : Evaluation C σ p.size} {statuses : List Status}
      (h : InTurn p cs (p.evaluate c s).2 statuses s') :
      InTurn p (c :: cs) s ((p.evaluate c s).1 :: statuses) s'

variable {p : Plan C σ} {cs : List Nat}

theorem InTurn.length_eq {s s' : Evaluation C σ p.size} {statuses : List Status}
    (h : p.InTurn cs s statuses s') : statuses.length = cs.length := by
  induction h with
  | nil => rfl
  | cons _ ih => rw [List.length_cons, List.length_cons, ih]

/-- Steps that nothing stops are all taken. -/
theorem inTurn_collect (stops : Status → Bool) (h : ∀ status, stops status = false)
    (cs : List Nat) (s : Evaluation C σ p.size) :
    p.InTurn cs s (Composite.collect stops (cs.map p.evaluate) s).1
      (Composite.collect stops (cs.map p.evaluate) s).2 := by
  induction cs generalizing s with
  | nil => exact .nil s
  | cons c cs ih =>
    simp only [List.map_cons, Composite.collect, h, Bool.false_eq_true, if_false]
    exact .cons (ih _)

/-- A parallel evaluates all of its children in order, each once. With thresholds up to `2 ^ 63` and
as many more as there are children it then goes by what can still be reached: it succeeds if enough
have succeeded, fails if too few would have even if all that are running had succeeded, and runs
otherwise. So it never runs if it requires more than there are children. With larger thresholds it
does not fail but runs for ever. Up to `2 ^ 63` no word wraps around. -/
theorem parallel_resolves {i : Nat} {name : String} {required : UInt64}
    (hn : p.node? i = some ⟨name, .composite (.parallel required) cs⟩) (hcs : cs.length < 2 ^ 63)
    (s : Evaluation C σ p.size) :
    ∃ statuses, p.InTurn cs (s.enter i) statuses (p.evaluate i s).2 ∧
      let status := (p.evaluate i s).1
      let successes := statuses.count .success
      let running := statuses.count .running
      (status = .success ↔ required.toNat ≤ successes) ∧
      (status = .failure ↔
        successes + running < required.toNat ∧ required.toNat ≤ 2 ^ 63 + cs.length) ∧
      (status = .running ↔ successes < required.toNat ∧
        (required.toNat ≤ successes + running ∨ 2 ^ 63 + cs.length < required.toNat)) ∧
      (cs.length < required.toNat → required.toNat ≤ 2 ^ 63 + cs.length → status ≠ .running) ∧
      (required.toNat < 2 ^ 63 → Composite.Reckons required cs.length) := by
  have hevaluate := evaluate_composite hn s
  rw [Composite.run_eq] at hevaluate
  have hturn : p.InTurn cs (s.enter i) _ _ :=
    inTurn_collect (Composite.stops (.parallel required)) (fun _ => rfl) cs (s.enter i)
  generalize Composite.collect (Composite.stops (.parallel required)) (cs.map p.evaluate)
    (s.enter i) = e at hevaluate hturn
  have hlength := hturn.length_eq
  have hsmall : e.1.length < 2 ^ 63 := hlength ▸ hcs
  rw [hevaluate, ← hlength]
  have hrunning := Composite.judge_parallel_eq_running required hsmall
  refine ⟨e.1, hturn, Composite.judge_parallel_eq_success required hsmall,
    Composite.judge_parallel_eq_failure required hsmall, hrunning, ?_,
    fun hrequired => Composite.reckons hrequired hsmall⟩
  intro hmore hless hruns
  have hcounts := Status.count_add_count_add_count e.1
  obtain ⟨-, hreach⟩ := hrunning.1 hruns
  omega

/-- A parallel that requires one success more than it has children fails while all of them run. -/
theorem parallel_resolves_too_many :
    let t : Tree Unit Unit := .ofLines
      [.composite "Both" (.parallel 3), .leaf "Left" (.act fun c => (.running, c)),
        .leaf "Right" (.act fun c => (.running, c)), .close]
    (t.evaluate ()).status = .failure := by
  intro t
  have hn : t.plan.node? 0 = some ⟨"Both", .composite (.parallel 3) [1, 2]⟩ := rfl
  obtain ⟨statuses, hturn, -, hfailure, -⟩ :=
    parallel_resolves hn (by decide) { context := (), cells := t.cells }
  have hcounts := Status.count_add_count_add_count statuses
  have hlength : statuses.length = 2 := hturn.length_eq
  have hthree : (3 : UInt64).toNat = 3 := rfl
  refine hfailure.2 ⟨?_, by decide⟩
  omega

/-- With the largest threshold there is, a parallel whose only child fails goes on running. -/
theorem running_out_of_reach :
    let t : Tree Unit Unit := .ofLines
      [.composite "All" (.parallel 18446744073709551615),
        .leaf "Only" (.act fun c => (.failure, c)), .close]
    let s : Evaluation Unit Unit t.plan.size := { context := (), cells := t.cells }
    t.plan.InTurn [1] (s.enter 0) [.failure] (t.plan.evaluate 0 s).2 ∧
      (t.evaluate ()).status = .running ∧
      ¬((t.evaluate ()).status = .failure ↔
        [Status.failure].count .success + [Status.failure].count .running <
          (18446744073709551615 : UInt64).toNat) := by
  intro t s
  have hstatus : (t.evaluate ()).status = .running := by decide +kernel
  refine ⟨?_, hstatus, ?_⟩
  · have hn : t.plan.node? 0 =
        some ⟨"All", .composite (.parallel 18446744073709551615) [1]⟩ := rfl
    have hchild : t.plan.node? 1 = some ⟨"Only", .leaf (.act fun c => (.failure, c))⟩ := rfl
    have hfails : (t.plan.evaluate 1 (s.enter 0)).1 = .failure := by
      rw [evaluate_leaf hchild]
      rfl
    have hleaves : (t.plan.evaluate 0 s).2 = (t.plan.evaluate 1 (s.enter 0)).2 := by
      rw [evaluate_composite hn, Composite.run_eq]
      rfl
    rw [hleaves, ← hfails]
    exact .cons (.nil _)
  · rw [hstatus]
    decide

end Plan
end Guardhouse
