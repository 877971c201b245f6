import Guardhouse.Proofs.Tree.Shape
import Mathlib.Algebra.Group.Int.Defs
import Mathlib.Algebra.Group.Nat.Defs

/-!
# Thresholds

A parallel succeeds if enough of its children did, and fails if not enough would have, even if all
that are still running had succeeded as well (`Composite.verdict_parallel_eq_failure`).

How many children may fail is a difference of whole numbers, and a tree reckons it with signed
words. The words are exact as long as the threshold is one itself (`Composite.reckons`), and even one
that is larger by as many as there are children wraps around twice and comes out right. Beyond that
a parallel tolerates more failures than it has children: it can no longer fail, and goes on running
for ever. Nothing else is different from what it should be (`Composite.judge_eq_reckon`).
-/

namespace Guardhouse

/-! ### Counts -/

theorem Status.count_add_count_add_count (statuses : List Status) :
    statuses.count .success + statuses.count .failure + statuses.count .running =
      statuses.length := by
  induction statuses with
  | nil => rfl
  | cons status statuses ih =>
    rw [List.length_cons, ← ih]
    cases status <;> simp <;> omega

theorem Tally.foldl_record (t : Tally) (statuses : List Status) :
    statuses.foldl record t =
      ⟨t.successes + statuses.count .success, t.failures + statuses.count .failure,
        t.children + statuses.length⟩ := by
  induction statuses generalizing t with
  | nil => rfl
  | cons status statuses ih =>
    rw [List.foldl_cons, ih]
    cases status <;> simp [record] <;> omega

namespace Composite

variable {required : UInt64} {n : Nat} {statuses : List Status}

/-! ### Verdicts -/

theorem verdict_parallel_eq_success (required : UInt64) (statuses : List Status) :
    verdict (.parallel required) statuses = .success ↔
      required.toNat ≤ statuses.count .success := by
  rw [verdict]
  split
  · next henough => simp [henough]
  · next hfew => split <;> simp [hfew]

theorem verdict_parallel_eq_failure (required : UInt64) (statuses : List Status) :
    verdict (.parallel required) statuses = .failure ↔
      statuses.count .success + statuses.count .running < required.toNat := by
  have hcounts := Status.count_add_count_add_count statuses
  rw [verdict]
  split
  · next henough =>
    -- what is reached already is not out of reach
    simp only [reduceCtorEq, false_iff]
    omega
  · split
    · next hfailed =>
      simp only [true_iff]
      omega
    · next hfailed =>
      simp only [reduceCtorEq, false_iff]
      omega

theorem verdict_parallel_eq_running (required : UInt64) (statuses : List Status) :
    verdict (.parallel required) statuses = .running ↔
      statuses.count .success < required.toNat ∧
        required.toNat ≤ statuses.count .success + statuses.count .running := by
  have hsuccess := verdict_parallel_eq_success required statuses
  have hfailure := verdict_parallel_eq_failure required statuses
  cases hverdict : verdict (.parallel required) statuses with
  | success =>
    have henough := hsuccess.1 hverdict
    simp only [reduceCtorEq, false_iff]
    omega
  | failure =>
    have hmissed := hfailure.1 hverdict
    simp only [reduceCtorEq, false_iff]
    omega
  | running =>
    rw [hverdict] at hsuccess hfailure
    simp only [reduceCtorEq, false_iff] at hsuccess hfailure
    simp only [true_iff]
    omega

/-! ### Words -/

/-- How many of `n` children may fail where `required` have to succeed, as a parallel reckons it. -/
def tolerance (required : UInt64) (n : Nat) : Int64 := Int64.ofNat n - required.toInt64

theorem toInt_toInt64 (required : UInt64) :
    required.toInt64.toInt = (required.toNat : ℤ).bmod (2 ^ 64) :=
  BitVec.toInt_eq_toNat_bmod required.toBitVec

/-- Below a threshold of a signed word and as many more as there are children, the words tell what
may fail. Above it they are too large by a whole turn. -/
theorem toInt_tolerance (required : UInt64) (hn : n < 2 ^ 63) :
    (tolerance required n).toInt =
      n - required.toNat + if required.toNat ≤ 2 ^ 63 + n then 0 else 2 ^ 64 := by
  have hrequired := required.toNat_lt
  unfold tolerance
  rw [Int64.toInt_sub, Int64.toInt_ofNat_of_lt hn, toInt_toInt64, Int.sub_bmod_bmod]
  split
  · rw [Int.bmod_eq_of_le] <;> omega
  · -- one turn up, the difference is in the range of a word
    rw [← Int.add_bmod_right, Int.bmod_eq_of_le] <;> omega

/-- None of the words that the tolerance is reckoned with wraps around. -/
structure Reckons (required : UInt64) (n : Nat) : Prop where
  children : (Int64.ofNat n).toInt = n
  threshold : required.toInt64.toInt = required.toNat
  difference : (tolerance required n).toInt = n - required.toNat

theorem reckons (hrequired : required.toNat < 2 ^ 63) (hn : n < 2 ^ 63) : Reckons required n where
  children := Int64.toInt_ofNat_of_lt hn
  threshold := by
    rw [toInt_toInt64]
    apply Int.bmod_eq_of_le
    · omega
    · omega
  difference := by
    rw [toInt_tolerance required hn, if_pos (by omega), Int.add_zero]

/-! ### The words against the verdict -/

/-- What a tree makes of the statuses of the children of a composite. -/
def judge : Composite → List Status → Status
  | parallel required, statuses => (statuses.foldl Tally.record {}).resolve required
  | rule, statuses => rule.verdict statuses

/-- A composite with so large a threshold that its tolerance wraps around. -/
def Overreaches (n : Nat) : Composite → Prop
  | parallel required => 2 ^ 63 + n < required.toNat
  | _ => False

instance : Decidable (Overreaches n rule) := by
  cases rule <;> unfold Overreaches <;> infer_instance

/-- The verdict on the children of a composite, except that one which overreaches goes on running. -/
def reckon (rule : Composite) (statuses : List Status) : Status :=
  if rule.Overreaches statuses.length then .running else rule.verdict statuses

theorem judge_parallel (required : UInt64) (statuses : List Status) :
    judge (.parallel required) statuses =
      if required.toNat ≤ statuses.count .success then .success
      else if tolerance required statuses.length < Int64.ofNat (statuses.count .failure)
      then .failure
      else .running := by
  rw [judge, Tally.foldl_record]
  simp only [Nat.zero_add]
  rfl

/-- Whether more failed than may, as a parallel reckons it. -/
theorem tolerance_lt_iff (required : UInt64) (hlength : statuses.length < 2 ^ 63) :
    tolerance required statuses.length < Int64.ofNat (statuses.count .failure) ↔
      (statuses.length : ℤ) - required.toNat < statuses.count .failure ∧
        required.toNat ≤ 2 ^ 63 + statuses.length := by
  have hfailed : statuses.count .failure ≤ statuses.length := List.count_le_length
  have hrequired := required.toNat_lt
  rw [Int64.lt_iff_toInt_lt, toInt_tolerance required hlength, Int64.toInt_ofNat_of_lt (by omega)]
  split <;> omega

/-- The words make a difference only to a composite that overreaches. -/
theorem judge_eq_reckon (rule : Composite) (hlength : statuses.length < 2 ^ 63) :
    rule.judge statuses = rule.reckon statuses := by
  cases rule with
  | selector => rfl
  | sequence => rfl
  | parallel required =>
    have hfew : statuses.count .success ≤ statuses.length := List.count_le_length
    rw [judge_parallel, reckon]
    unfold Overreaches verdict
    simp only [tolerance_lt_iff required hlength]
    split_ifs <;> first | rfl | omega

end Composite
end Guardhouse
