import Guardhouse.Proofs.Number.Operand
import Guardhouse.Proofs.Number.Size

/-!
# Square roots

The square root of a mantissa is computed as a whole number with the bits that tell what is left.
Those bits stand for some number between it and the next one, if not for the root itself, which need
not be rational; and it is that number that is rounded (`Unpacked.exists_shows_sqrt`). So a square
root is not below any power of two whose square is not above its operand
(`Single.two_zpow_le_value_sqrt`).
-/

namespace Guardhouse
namespace Unpacked

open Float.Model (Format UnpackedFloat totalExponent)
open Float.Model.UnpackedFloat

variable {F : Format} {x : ℚ} {m q : Nat} {e t k : Int}

/-- Whatever residual bits a mantissa has, they stand for something. -/
theorem exists_standsFor (em : ExtendedMantissa) : ∃ x, StandsFor em x := by
  refine ⟨_, if em.stickyBit then 1 / 2 else 0, ?_, ?_, ?_, rfl⟩
  · split <;> norm_num
  · split <;> norm_num
  · split <;> simp [*]

/-- A power of two that is not above a square root is not above the whole part of the root, in units
of another power of two. -/
theorem two_zpow_le_root (hq : 0 < q) (hx : x < ((q + 1) * 2 ^ t) ^ 2) (h : 2 ^ (2 * k) ≤ x) :
    (2 : ℚ) ^ k ≤ q * 2 ^ t := by
  have hunit := two_zpow_pos t
  rcases le_or_gt t k with hle | hlt
  · obtain ⟨d, rfl⟩ := Int.le.dest hle
    rw [two_mul, two_zpow_add, ← pow_two] at h
    have hbelow : (2 : ℚ) ^ (t + d) < (q + 1) * 2 ^ t := by
      apply lt_of_pow_lt_pow_left₀ 2
      · positivity
      · exact h.trans_lt hx
    rw [add_comm, two_zpow_add, zpow_natCast] at hbelow ⊢
    have hroot : 2 ^ d < q + 1 := by exact_mod_cast lt_of_mul_lt_mul_right hbelow hunit.le
    have hwhole : (2 : ℚ) ^ d ≤ q := by exact_mod_cast Nat.le_of_lt_succ hroot
    exact mul_le_mul_of_nonneg_right hwhole hunit.le
  · have hone : (1 : ℚ) ≤ q := by exact_mod_cast hq
    exact (zpow_le_zpow_right₀ one_le_two hlt.le).trans (le_mul_of_one_le_left hunit.le hone)

/-- What is rounded to a square root is not below the powers of two that the root is not below. -/
theorem exists_shows_root (acc : Accuracy) (hq : 0 < q) (hx : x < ((q + 1) * 2 ^ t) ^ 2)
    (hk : 2 ^ (2 * k) ≤ x) (ht : t ≤ F.targetExponent (k + 1)) :
    ∃ r : ℚ, (∀ j : Int, 2 ^ (2 * j) ≤ x → 2 ^ j ≤ r) ∧
      Shows F .positive (rounded F r) (roundWithAccuracy F .positive q t acc) := by
  obtain ⟨y, hy⟩ := exists_standsFor (.ofMantissaAndAccuracy q acc)
  have hwhole := hy.le_lt.1
  rw [mantissa_ofMantissaAndAccuracy] at hwhole
  have hunit := two_zpow_pos t
  have hpowers (j : Int) (hj : 2 ^ (2 * j) ≤ x) : (2 : ℚ) ^ j ≤ y * 2 ^ t :=
    (two_zpow_le_root hq hx hj).trans (mul_le_mul_of_nonneg_right hwhole hunit.le)
  have hpos : 0 < y * 2 ^ t := (two_zpow_pos k).trans_le (hpowers k hk)
  refine ⟨y * 2 ^ t, hpowers, shows_roundWithAccuracy _ hpos ?_ (ht.trans ?_)⟩
  · rwa [mul_div_cancel_right₀ y hunit.ne']
  · have hlog : k ≤ Int.log 2 (y * 2 ^ t) :=
      (Int.zpow_le_iff_le_log one_lt_two hpos).1 (hpowers k hk)
    rw [place, abs_of_pos hpos]
    unfold Format.targetExponent
    omega

theorem exists_shows_sqrt (hm : 0 < m) :
    ∃ r : ℚ, (∀ k : Int, 2 ^ (2 * k) ≤ (m * 2 ^ e : ℚ) → 2 ^ k ≤ r) ∧
      Shows F .positive (rounded F r) (UnpackedFloat.sqrt F (.finite .positive m e hm)) := by
  have hhalf (n : Int) : n.ediv 2 = n / 2 := rfl
  unfold UnpackedFloat.sqrt sqrtCore
  simp only [hhalf]
  set t := min (e / 2) (F.targetExponent ((totalExponent m e + 1) / 2)) with ht
  set n := m <<< (e - 2 * t).toNat with hn
  have hscaled : (n : ℚ) * 2 ^ (2 * t) = m * 2 ^ e := by
    have hshift := shiftLeft_mul_two_zpow m e (e - 2 * t).toNat
    rwa [← hn, show e - (e - 2 * t).toNat = 2 * t by omega] at hshift
  have hroot : (m * 2 ^ e : ℚ) < ((n.sqrt + 1) * 2 ^ t) ^ 2 := by
    have hnext : (n : ℚ) < (n.sqrt + 1) ^ 2 := by exact_mod_cast Nat.lt_succ_sqrt' n
    rw [← hscaled, mul_pow, two_mul, two_zpow_add, ← pow_two]
    exact mul_lt_mul_of_pos_right hnext (by positivity)
  -- half of the bits of the operand, and so many the root has
  refine exists_shows_root (k := (totalExponent m e + 1) / 2 - 1) _ ?_ hroot ?_ ?_
  · rw [Nat.sqrt_pos, hn, Nat.shiftLeft_eq]
    positivity
  · have hbelow : (2 : ℚ) ^ Nat.log2 m ≤ m := by exact_mod_cast Nat.log2_self_le hm.ne'
    calc (2 : ℚ) ^ (2 * ((totalExponent m e + 1) / 2 - 1)) ≤ 2 ^ (Nat.log2 m + e) := by
          apply zpow_le_zpow_right₀ one_le_two
          unfold totalExponent
          omega
      _ = 2 ^ Nat.log2 m * 2 ^ e := by rw [two_zpow_add, zpow_natCast]
      _ ≤ m * 2 ^ e := mul_le_mul_of_nonneg_right hbelow (two_zpow_pos e).le
  · rw [sub_add_cancel]
    exact min_le_right ..

end Unpacked

namespace Single

open Float.Model (UnpackedFloat)
open Unpacked (unit)

variable {x : Float32} {k : Int}

/-- A square root is not below a power of two whose square is not above the operand. -/
theorem two_zpow_le_value_sqrt (hx : x.isFinite = true) (hk : -149 ≤ k)
    (h : 2 ^ (2 * k) ≤ value x) : 2 ^ k ≤ value x.sqrt := by
  have hsmall : (2 : ℚ) ^ k ≤ bound := by
    rcases le_or_gt k 0 with hneg | hpos
    · exact (zpow_le_one_of_nonpos₀ one_le_two hneg).trans (one_le_pow₀ one_le_two)
    · have hdouble : (2 : ℚ) ^ k ≤ 2 ^ (2 * k) := zpow_le_zpow_right₀ one_le_two (by omega)
      exact hdouble.trans (h.trans (value_le_bound x))
  have hpos : 0 < value x := (two_zpow_pos _).trans_le h
  change x.toModel.unpack.isFinite = true at hx
  unfold value at h hpos
  rcases hu : x.toModel.unpack with s | - | s | ⟨s, m, e, hm⟩
  · rw [hu] at hx
    cases hx
  · rw [hu] at hx
    cases hx
  · rw [hu] at hpos
    exact absurd hpos (lt_irrefl 0)
  rw [hu, Unpacked.rank_finite] at h hpos
  cases s with
  | negative =>
    have hneg : (0 : ℚ) < m * 2 ^ e := mul_pos (Nat.cast_pos.2 hm) (two_zpow_pos e)
    rw [unit, neg_one_mul] at hpos
    linarith
  | positive =>
    rw [unit, one_mul] at h
    obtain ⟨r, hr, hshows⟩ := Unpacked.exists_shows_sqrt (F := .binary32) (e := e) hm
    have hcuts := cuts_of_form hshows.form
    rw [unit, one_mul] at hcuts
    rw [sqrt_eq_ofModel, hu, hcuts.value]
    apply le_max_of_le_right
    exact le_min (le_rounded (onGrid_two_zpow hk) (hr k h)) hsmall

end Single
end Guardhouse
