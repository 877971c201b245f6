import Guardhouse.Proofs.Number.Single

/-!
# Signs of singles

What negation, size and sign bit of a single are to its value, and which way a single goes when
something is added to it. Nothing is rounded here but sums and differences: they may stay where they
are, but they never go the wrong way (`Single.add_of_isFinite`, `Single.sub_le`).
-/

namespace Guardhouse
namespace Unpacked

open Float.Model (Format UnpackedFloat)
open Float.Model.UnpackedFloat

variable {F : Format} {u : UnpackedFloat}

theorem rank_neg (u : UnpackedFloat) : rank F u.neg = -rank F u := by
  rcases u with s | - | s | ⟨s, m, e, hm⟩
  · show unit (-s) * limit F = -(unit s * limit F)
    rw [unit_neg, neg_mul]
  · rfl
  · rfl
  · show unit (-s) * _ = -(unit s * _)
    rw [unit_neg, neg_mul]

/-- The size is the number itself, or its negation if it is negative. -/
theorem abs_eq_or (u : UnpackedFloat) :
    u.abs = u ∧ 0 ≤ rank F u ∨ u.abs = u.neg ∧ rank F u ≤ 0 := by
  have hlimit := (limit_pos F).le
  rcases u with s | - | s | ⟨s, m, e, hm⟩
  · cases s with
    | negative => exact .inr ⟨rfl, by rw [rank_infinity, unit]; linarith⟩
    | positive => exact .inl ⟨rfl, by rw [rank_infinity, unit]; linarith⟩
  · exact .inl ⟨rfl, le_rfl⟩
  · cases s with
    | negative => exact .inr ⟨rfl, le_rfl⟩
    | positive => exact .inl ⟨rfl, le_rfl⟩
  · have hpos : (0 : ℚ) < m * 2 ^ e := mul_pos (Nat.cast_pos.2 hm) (two_zpow_pos e)
    cases s with
    | negative => exact .inr ⟨rfl, by rw [rank_finite, unit]; linarith⟩
    | positive => exact .inl ⟨rfl, by rw [rank_finite, unit]; linarith⟩

end Unpacked

namespace Single

open Float.Model (Format UnpackedFloat)
open Float.Model.UnpackedFloat
open Unpacked (Form Stored rank settle limit unit)

variable {x y : Float32}

/-! ### Negation and size -/

theorem settle_unpack (h : IsNumber x) : settle .binary32 x.toModel.unpack = x.toModel.unpack := by
  by_cases hx : x.isFinite = true
  · exact (form hx).settle (by decide) (isFinite_iff.1 hx).2
  · obtain ⟨s, hs⟩ := exists_infinity h hx
    rw [hs]
    exact Unpacked.unpack_packedInfinity s

theorem unpack_neg (h : IsNumber x) : (-x).toModel.unpack = x.toModel.unpack.neg := by
  show settle .binary32 x.toModel.unpack.neg = _
  by_cases hx : x.isFinite = true
  · refine (form hx).neg.settle (by decide) ?_
    rw [abs_neg]
    exact (isFinite_iff.1 hx).2
  · obtain ⟨s, hs⟩ := exists_infinity h hx
    rw [hs]
    exact Unpacked.unpack_packedInfinity (-s)

theorem value_neg (h : IsNumber x) : value (-x) = -value x := by
  unfold value
  rw [unpack_neg h]
  exact Unpacked.rank_neg _

theorem IsNumber.neg (h : IsNumber x) : IsNumber (-x) := by
  unfold IsNumber at h ⊢
  rw [unpack_neg h]
  intro hneg
  cases hu : x.toModel.unpack with
  | notANumber => exact h hu
  | _ => rw [hu] at hneg; cases hneg

/-- The size of a single is the single, or its negation if that is not negative. -/
theorem unpack_abs (h : IsNumber x) :
    x.abs.toModel.unpack = x.toModel.unpack ∧ 0 ≤ value x ∨
      x.abs.toModel.unpack = (-x).toModel.unpack ∧ value x ≤ 0 := by
  have hsettle : x.abs.toModel.unpack = settle .binary32 x.toModel.unpack.abs := rfl
  have hneg : (-x).toModel.unpack = settle .binary32 x.toModel.unpack.neg := rfl
  rw [hsettle, hneg]
  rcases Unpacked.abs_eq_or (F := .binary32) x.toModel.unpack with ⟨habs, hvalue⟩ | ⟨habs, hvalue⟩
  · rw [habs, settle_unpack h]
    exact .inl ⟨rfl, hvalue⟩
  · rw [habs]
    exact .inr ⟨rfl, hvalue⟩

theorem value_abs (h : IsNumber x) : value x.abs = |value x| := by
  rcases unpack_abs h with ⟨habs, hvalue⟩ | ⟨habs, hvalue⟩
  · rw [abs_of_nonneg hvalue]
    unfold value
    rw [habs]
  · rw [abs_of_nonpos hvalue, ← value_neg h]
    unfold value
    rw [habs]

theorem IsNumber.abs (h : IsNumber x) : IsNumber x.abs := by
  rcases unpack_abs h with ⟨habs, -⟩ | ⟨habs, -⟩
  · unfold IsNumber
    rw [habs]
    exact h
  · unfold IsNumber
    rw [habs]
    exact h.neg

theorem isNumber_of_abs (h : IsNumber x.abs) : IsNumber x := by
  intro hx
  have habs : x.abs.toModel.unpack = settle .binary32 x.toModel.unpack.abs := rfl
  unfold IsNumber at h
  rw [habs, hx] at h
  exact h (by with_unfolding_all rfl)

theorem abs_le_iff : x.abs ≤ y ↔ IsNumber x ∧ IsNumber y ∧ |value x| ≤ value y := by
  rw [le_iff_value]
  constructor
  · rintro ⟨hx, hy, hle⟩
    have hnumber := isNumber_of_abs hx
    exact ⟨hnumber, hy, value_abs hnumber ▸ hle⟩
  · rintro ⟨hx, hy, hle⟩
    exact ⟨hx.abs, hy, (value_abs hx).symm ▸ hle⟩

theorem isFinite_of_abs_le (h : x.abs ≤ y) (hy : y.isFinite = true) : x.isFinite = true := by
  obtain ⟨hx, -, hle⟩ := abs_le_iff.1 h
  exact isFinite_iff.2 ⟨hx, (hle.trans (le_abs_self _)).trans_lt (isFinite_iff.1 hy).2⟩

theorem isFinite_of_le (hx : 0 ≤ x) (h : x ≤ y) (hy : y.isFinite = true) : x.isFinite = true := by
  apply isFinite_of_abs_le _ hy
  obtain ⟨hnumber, hpos⟩ := zero_le_iff.1 hx
  obtain ⟨-, hynumber, hle⟩ := le_iff_value.1 h
  exact abs_le_iff.2 ⟨hnumber, hynumber, by rwa [abs_of_nonneg hpos]⟩

/-! ### Equality -/

theorem beq_iff_value : (x == y) = true ↔ IsNumber x ∧ IsNumber y ∧ value x = value y := by
  have hcompare : (x == y) = (x.toModel.unpack.compare y.toModel.unpack == some .eq) := rfl
  rw [hcompare, beq_iff_eq, ← and_assoc]
  by_cases h : IsNumber x ∧ IsNumber y
  · rw [h.1.compare_eq h.2, Option.some_inj, compare_eq_iff_eq]
    simp [h]
  · rw [Unpacked.compare_eq_none h]
    simp [h]

/-! ### The sign bit -/

theorem toNat_unpackSign (b : BitVec (Format.numBits .binary32)) :
    (unpackSign b).toNat = b.toNat / 2 ^ 31 := by
  have hb : b.toNat < 2 ^ 32 := b.isLt
  simp only [unpackSign, BitVec.toNat_cast, BitVec.extractLsb_toNat]
  show b.toNat >>> 31 % 2 ^ (31 - 31 + 1) = _
  rw [Nat.shiftRight_eq_div_pow]
  omega

/-- The bits of a single. -/
def bits (x : Float32) : BitVec (Format.numBits .binary32) := x.toModel.toBits.toBitVec

theorem signBit_iff : signBit x = true ↔ Sign.ofBitVec (unpackSign (bits x)) = .negative := by
  have hsign : (unpackSign (bits x)).toNat = x.toBits.toNat / 2 ^ 31 := toNat_unpackSign (bits x)
  have hbits : x.toBits.toNat < 2 ^ 32 := x.toBits.toNat_lt
  have hword : (x.toBits >>> 31).toNat = x.toBits.toNat / 2 ^ 31 := by
    rw [UInt32.toNat_shiftRight, Nat.shiftRight_eq_div_pow]
    rfl
  have hone : (1 : UInt32).toNat = 1 := rfl
  unfold signBit Sign.ofBitVec
  rw [beq_iff_eq, ← UInt32.toNat_inj, hword, hone, ← hsign]
  split
  · next hzero => simp [hzero]
  · next hset =>
    have hne : (unpackSign (bits x)).toNat ≠ 0 := fun heq => hset (BitVec.eq_of_toNat_eq heq)
    simp only [iff_true]
    omega

/-- What is unpacked has the sign of its bit. -/
theorem exists_rank_unpack {F : Format} (b : BitVec F.numBits) :
    ∃ q : ℚ, 0 ≤ q ∧ rank F (unpack F b) = unit (Sign.ofBitVec (unpackSign b)) * q := by
  simp only [unpack]
  split
  · split
    · exact ⟨limit F, (Unpacked.limit_pos F).le, rfl⟩
    · exact ⟨0, le_rfl, (mul_zero _).symm⟩
  · split
    · split
      · exact ⟨0, le_rfl, (mul_zero _).symm⟩
      · exact ⟨_, by positivity, rfl⟩
    · exact ⟨_, by positivity, rfl⟩

theorem signBit_of_neg (h : value x < 0) : signBit x = true := by
  obtain ⟨q, hq, hrank⟩ := exists_rank_unpack (bits x)
  have hvalue : value x = _ := hrank
  rw [signBit_iff]
  cases hs : Sign.ofBitVec (unpackSign (bits x)) with
  | negative => rfl
  | positive =>
    rw [hs, unit, one_mul] at hvalue
    linarith

theorem signBit_of_pos (h : 0 < value x) : signBit x = false := by
  obtain ⟨q, hq, hrank⟩ := exists_rank_unpack (bits x)
  have hvalue : value x = _ := hrank
  rw [← Bool.not_eq_true, signBit_iff]
  intro hs
  rw [hs, unit, neg_one_mul] at hvalue
  linarith

theorem abs_value_withSignOf (hx : IsNumber x) (y : Float32) :
    |value (withSignOf x y)| = |value x| := by
  unfold withSignOf
  split
  · rw [value_neg hx.abs, value_abs hx, abs_neg, abs_abs]
  · rw [value_abs hx, abs_abs]

theorem value_withSignOf_of_pos (hx : IsNumber x) (hy : 0 < value y) :
    value (withSignOf x y) = |value x| := by
  rw [withSignOf, signBit_of_pos hy, if_neg Bool.false_ne_true, value_abs hx]

theorem value_withSignOf_of_neg (hx : IsNumber x) (hy : value y < 0) :
    value (withSignOf x y) = -|value x| := by
  rw [withSignOf, signBit_of_neg hy, if_pos rfl, value_neg hx.abs, value_abs hx]

/-- Something of the size and the sign of a number that is not zero has its value. -/
theorem value_withSignOf_of_abs_eq (hx : IsNumber x) (h : |value y| = |value x|)
    (hne : value y ≠ 0) : value (withSignOf x y) = value y := by
  rcases lt_or_gt_of_ne hne with hneg | hpos
  · rw [value_withSignOf_of_neg hx hneg, ← h, abs_of_neg hneg, neg_neg]
  · rw [value_withSignOf_of_pos hx hpos, ← h, abs_of_pos hpos]

theorem IsNumber.withSignOf (hx : IsNumber x) (y : Float32) : IsNumber (withSignOf x y) := by
  unfold Guardhouse.withSignOf
  split
  · exact hx.abs.neg
  · exact hx.abs

/-! ### One and minus one -/

/-- The single is one or minus one. -/
def IsUnit (d : Float32) : Prop := d = 1 ∨ d = -1

theorem IsUnit.neg {d : Float32} (h : IsUnit d) : IsUnit (-d) := by
  rcases h with rfl | rfl
  · exact .inr rfl
  · exact .inl (by decide)

theorem unpack_one :
    (1 : Float32).toModel.unpack = .finite .positive (2 ^ 23) (-23) (by decide) := by
  with_unfolding_all rfl

theorem value_one : value 1 = 1 := by
  unfold value
  rw [unpack_one, Unpacked.rank_finite, unit]
  norm_num

theorem isFinite_one : (1 : Float32).isFinite = true := by decide

theorem value_neg_one : value (-1) = -1 := by
  rw [value_neg (isNumber_of_isFinite isFinite_one), value_one]

theorem IsUnit.isFinite {d : Float32} (h : IsUnit d) : d.isFinite = true := by
  rcases h with rfl | rfl
  · exact isFinite_one
  · decide

theorem IsUnit.unpack {d : Float32} (h : IsUnit d) :
    ∃ s m e, ∃ hm : 0 < m, d.toModel.unpack = .finite s m e hm ∧ value d = unit s := by
  rcases h with rfl | rfl
  · exact ⟨_, _, _, _, unpack_one, value_one⟩
  · have hone := unpack_neg (isNumber_of_isFinite isFinite_one)
    rw [unpack_one] at hone
    exact ⟨_, _, _, _, hone, value_neg_one⟩

/-- Times one or minus one nothing is rounded, and infinity stays infinite. -/
theorem mul_unit {d : Float32} (hx : IsNumber x) (hd : IsUnit d) :
    IsNumber (x * d) ∧ value (x * d) = value x * value d := by
  by_cases hfinite : x.isFinite = true
  · have hgrid : OnGrid .binary32 (value x * value d) := by
      rcases hd with rfl | rfl
      · rw [value_one, mul_one]
        exact onGrid hfinite
      · rw [value_neg_one, mul_neg_one]
        exact (onGrid hfinite).neg
    have hsmall : |value x * value d| < bound := by
      obtain ⟨t, -, -, -, -, ht⟩ := hd.unpack
      rw [abs_mul, ht, Unpacked.abs_unit, mul_one]
      exact (isFinite_iff.1 hfinite).2
    have hcuts := cuts_mul hfinite hd.isFinite
    rw [hgrid.rounded_eq] at hcuts
    exact ⟨hcuts.number, (hcuts.isFinite hsmall).2⟩
  · obtain ⟨s, hs⟩ := exists_infinity hx hfinite
    obtain ⟨t, m, e, hm, ht, hvalue⟩ := hd.unpack
    -- infinity times something that is not zero, so the product is a number
    have hunpack : (x * d).toModel.unpack = .infinity (s * t) := by
      rw [mul_eq_ofModel, unpack_ofModel, hs, ht]
      exact Unpacked.unpack_packedInfinity _
    refine ⟨?_, ?_⟩
    · unfold IsNumber
      rw [hunpack]
      exact UnpackedFloat.noConfusion
    · rw [hvalue]
      unfold value
      rw [hunpack, hs, Unpacked.rank_infinity, Unpacked.rank_infinity, Unpacked.unit_mul]
      ring

/-! ### Sums and differences -/

/-- What is added to a finite single is never a step the wrong way. -/
theorem add_of_isFinite (hx : x.isFinite = true) (hy : IsNumber y) :
    IsNumber (x + y) ∧ (0 ≤ value y → value x ≤ value (x + y)) ∧
      (value y ≤ 0 → value (x + y) ≤ value x) := by
  have hsmall := abs_lt.1 (isFinite_iff.1 hx).2
  by_cases hfinite : y.isFinite = true
  · have hcuts := cuts_add hx hfinite
    refine ⟨hcuts.number, fun hpos => ?_, fun hneg => ?_⟩
    · have hle := le_rounded (onGrid hx) (le_add_of_nonneg_right hpos)
      rw [hcuts.value]
      exact le_max_of_le_right (le_min hle hsmall.2.le)
    · have hle := rounded_le (onGrid hx) (add_le_of_nonpos_right hneg)
      rw [hcuts.value]
      exact max_le hsmall.1.le ((min_le_left _ _).trans hle)
  · obtain ⟨s, hs⟩ := exists_infinity hy hfinite
    -- a finite number cannot cancel an infinite one
    have hunpack : (x + y).toModel.unpack = .infinity s := by
      rw [add_eq_ofModel, unpack_ofModel, hs]
      change x.toModel.unpack.isFinite = true at hx
      cases hu : x.toModel.unpack with
      | notANumber => rw [hu] at hx; cases hx
      | infinity t => rw [hu] at hx; cases hx
      | _ => exact Unpacked.unpack_packedInfinity _
    have hvalue : value y = unit s * bound := by
      unfold value
      rw [hs]
      rfl
    have hsum : value (x + y) = unit s * bound := by
      unfold value
      rw [hunpack]
      rfl
    have hbound := bound_pos
    refine ⟨?_, ?_, ?_⟩
    · unfold IsNumber
      rw [hunpack]
      exact UnpackedFloat.noConfusion
    all_goals
      rw [hvalue, hsum]
      intro hsign
      cases s with
      | negative =>
        rw [unit, neg_one_mul] at hsign ⊢
        linarith
      | positive =>
        rw [unit, one_mul] at hsign ⊢
        linarith

theorem sub_le (hx : x.isFinite = true) (hy : y.isFinite = true) (hpos : 0 ≤ y) : x - y ≤ x := by
  have hsmall := abs_lt.1 (isFinite_iff.1 hx).2
  have hcuts := cuts_sub hx hy
  have hle := rounded_le (onGrid hx) (sub_le_self _ (zero_le_iff.1 hpos).2)
  refine le_iff_value.2 ⟨hcuts.number, isNumber_of_isFinite hx, ?_⟩
  rw [hcuts.value]
  exact max_le hsmall.1.le ((min_le_left _ _).trans hle)

end Single
end Guardhouse
