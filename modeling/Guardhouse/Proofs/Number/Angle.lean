import Guardhouse.Proofs.Number.Sign
import Guardhouse.Number.Circular

/-!
# Angles

An arc cosine is a number for whatever lies between minus one and one, and it is never negative
(`Circular.zero_le_arccos`): it is the nearest single to a ratio of natural numbers, be it a part of
π or the angle of a point. So it stays when it is given in degrees.
-/

namespace Guardhouse

open Float.Model (UnpackedFloat)

namespace Single

open Float.Model.UnpackedFloat
open Unpacked (unit)

variable {x : Float32}

/-! ### Ratios -/

theorem cuts_nearestSingle (n : Nat) {d : Nat} (hd : 0 < d) :
    Cuts (rounded .binary32 (n / d)) (nearestSingle .positive n d) := by
  apply cuts_of_form
  unfold nearest
  rw [dif_pos hd]
  by_cases hn : 0 < n
  · rw [dif_pos hn]
    have hform := (Unpacked.shows_divCore (F := .binary32) (e := 0) (f := 0) .positive hn hd).form
    rw [unit, one_mul, zpow_zero, mul_one, mul_one] at hform
    exact hform
  · rw [dif_neg hn, Nat.eq_zero_of_not_pos hn, Nat.cast_zero, zero_div, rounded_zero]
    exact ⟨rfl, trivial, rfl⟩

theorem zero_le_nearestSingle (n : Nat) {d : Nat} (hd : 0 < d) :
    0 ≤ nearestSingle .positive n d :=
  (cuts_nearestSingle n hd).zero_le (rounded_nonneg (by positivity))

/-! ### Between minus one and one -/

theorem clamp_unit (hx : IsNumber x) :
    (clamp (-1) 1 x).isFinite = true ∧ |value (clamp (-1) 1 x)| ≤ 1 := by
  have hone := isNumber_of_isFinite isFinite_one
  unfold clamp
  split
  · refine ⟨by decide, ?_⟩
    rw [value_neg_one, abs_neg, abs_one]
  · next hlow =>
    split
    · refine ⟨isFinite_one, ?_⟩
      rw [value_one, abs_one]
    · next hhigh =>
      rw [lt_iff_value, value_neg_one] at hlow
      rw [lt_iff_value, value_one] at hhigh
      have hbetween : |value x| ≤ 1 := by
        rw [abs_le]
        constructor
        · exact le_of_not_gt fun hlt => hlow ⟨hx, hone.neg, hlt⟩
        · exact le_of_not_gt fun hlt => hhigh ⟨hone, hx, hlt⟩
      exact ⟨isFinite_iff.2 ⟨hx, hbetween.trans_lt one_lt_bound⟩, hbetween⟩

end Single

namespace Circular

open Single (value)

variable {x : Float32}

theorem zero_le_partOfPi (numerator : Nat) {denominator : Nat} (hd : 0 < denominator) :
    0 ≤ partOfPi .positive numerator denominator := by
  apply Single.zero_le_nearestSingle
  rw [Nat.shiftLeft_eq]
  positivity

theorem zero_le_angleOf (y : Nat) (left : Bool) (x : Nat) : 0 ≤ angleOf .positive y left x := by
  apply Single.zero_le_nearestSingle
  rw [Nat.shiftLeft_eq]
  positivity

/-- What lies between minus one and one does not reach beyond the unit circle. -/
theorem across_le {m : Nat} {e : Int} (he : -149 ≤ e) (h : (m * 2 ^ e : ℚ) ≤ 1) :
    m <<< (e + 256).toNat ≤ 1 <<< 256 := by
  have hshift : ((m <<< (e + 256).toNat : ℕ) : ℚ) = m * 2 ^ e * 2 ^ (256 : ℕ) := by
    have hplaces : ((e + 256).toNat : Int) = e + 256 := by omega
    rw [Nat.shiftLeft_eq, Nat.cast_mul, Nat.cast_pow, Nat.cast_ofNat, ← zpow_natCast, hplaces,
      two_zpow_add, mul_assoc]
    rfl
  have hle : ((m <<< (e + 256).toNat : ℕ) : ℚ) ≤ 2 ^ (256 : ℕ) := by
    rw [hshift]
    exact mul_le_of_le_one_left (by positivity) h
  rw [Nat.one_shiftLeft]
  exact_mod_cast hle

theorem zero_le_arccos (hx : x.isFinite = true) (h : |value x| ≤ 1) : 0 ≤ arccos x := by
  have hform := Single.form hx
  unfold arccos
  rcases hu : x.toModel.unpack with s | - | s | ⟨s, m, e, hm⟩
  · rw [hu] at hform
    cases hform.finite
  · rw [hu] at hform
    cases hform.finite
  · exact zero_le_partOfPi 1 two_pos
  · rw [hu] at hform
    have hcanonical : Unpacked.Canonical .binary32 (.finite s m e hm) := hform.canonical
    have he := minExponent_le_place .binary32 (m * 2 ^ e)
    rw [hcanonical.place_eq] at he
    rw [← hform.value, Unpacked.abs_value_finite] at h
    dsimp only
    rw [if_neg (not_lt.2 (across_le he h))]
    split
    · cases s with
      | positive => decide
      | negative => exact zero_le_partOfPi 1 one_pos
    · exact zero_le_angleOf _ _ _

theorem zero_le_toDegrees (h : 0 ≤ x) : 0 ≤ toDegrees x :=
  Single.zero_le_mul h (by decide) (.inr (by decide)) (.inl (by decide))

end Circular
end Guardhouse
