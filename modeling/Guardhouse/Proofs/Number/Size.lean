import Guardhouse.Proofs.Number.Sign

/-!
# Sizes of singles

How large a result can be, in powers of two. These are singles themselves, so rounding does not lift
anything above them (`Single.Cuts.fits`): a product has the sizes of both factors together, a sum at
most one more than its parts (`Single.Fits.mul`, `Single.Fits.add`). As long as the sizes stay small
enough, the results are finite.
-/

namespace Guardhouse

open Float.Model (Format)

theorem onGrid_two_zpow {F : Format} {k : Int} (hk : F.minExponent ≤ k) : OnGrid F (2 ^ k) := by
  refine ⟨1, k, hk, ?_, ?_⟩
  · rw [abs_one]
    exact one_lt_pow₀ one_lt_two (by unfold Format.mantissaBits; omega)
  · rw [Int.cast_one, one_mul]

/-- Every positive quantity is between a power of two and the next one. -/
theorem exists_two_zpow_le {q : ℚ} (hq : 0 < q) : ∃ k : Int, 2 ^ k ≤ q ∧ q < 2 * 2 ^ k := by
  refine ⟨Int.log 2 q, Int.zpow_log_le_self one_lt_two hq, ?_⟩
  have hlog := Int.lt_zpow_succ_log_self (b := 2) one_lt_two q
  rwa [Nat.cast_ofNat, zpow_add_one₀ two_ne_zero, mul_comm] at hlog

namespace Single

variable {x y : Float32} {q : ℚ} {j k : Nat}

theorem two_pow_lt_bound (hk : k < 128) : (2 : ℚ) ^ k < bound :=
  pow_lt_pow_right₀ one_lt_two hk

/-- A finite single that is not above a quantity is not above its nearest single. -/
theorem value_le_of_cuts (h : Cuts (rounded .binary32 q) y) (hx : x.isFinite = true)
    (hle : value x ≤ q) : value x ≤ value y := by
  rw [h.value]
  apply le_max_of_le_right
  exact le_min (le_rounded (onGrid hx) hle) (abs_lt.1 (isFinite_iff.1 hx).2).2.le

/-- A sum of what is not negative is not below its parts. -/
theorem value_le_add (hx : x.isFinite = true) (hy : y.isFinite = true) (hx0 : 0 ≤ x)
    (hy0 : 0 ≤ y) : value x ≤ value (x + y) ∧ value y ≤ value (x + y) := by
  have hcuts := cuts_add hx hy
  constructor
  · exact value_le_of_cuts hcuts hx (le_add_of_nonneg_right (zero_le_iff.1 hy0).2)
  · exact value_le_of_cuts hcuts hy (le_add_of_nonneg_left (zero_le_iff.1 hx0).2)

/-- One divided by what is not below a power of two is not above its reciprocal. -/
theorem value_one_div_le {e : Int} (hx : x.isFinite = true) (he : -127 ≤ e) (he' : e ≤ 149)
    (h : 2 ^ e ≤ value x) :
    (1 / x).isFinite = true ∧ |value (1 / x)| ≤ 2 ^ (-e) := by
  have hpos : 0 < value x := (two_zpow_pos e).trans_le h
  have hcuts := cuts_div isFinite_one hx hpos.ne'
  rw [value_one] at hcuts
  have hle : |1 / value x| ≤ 2 ^ (-e) := by
    rw [abs_of_pos (one_div_pos.2 hpos), zpow_neg, ← one_div]
    exact one_div_le_one_div_of_le (two_zpow_pos e) h
  have hgrid : OnGrid .binary32 (2 ^ (-e)) := onGrid_two_zpow (by
    show (-149 : Int) ≤ -e
    omega)
  have hround := abs_rounded_le hgrid hle
  have hsmall : (2 : ℚ) ^ (-e) < 2 ^ (128 : Int) := zpow_lt_zpow_right₀ one_lt_two (by omega)
  obtain ⟨hfinite, hvalue⟩ := hcuts.isFinite (hround.trans_lt hsmall)
  exact ⟨hfinite, hvalue.symm ▸ hround⟩

/-- A finite single of at most a power of two. -/
structure Fits (k : Nat) (x : Float32) : Prop where
  finite : x.isFinite = true
  abs_le : |value x| ≤ 2 ^ k

theorem Cuts.fits (h : Cuts (rounded .binary32 q) x) (hq : |q| ≤ 2 ^ k) (hk : k < 128) :
    Fits k x := by
  have hgrid : OnGrid .binary32 (2 ^ k) := by
    rw [← zpow_natCast]
    exact onGrid_two_zpow ((minExponent_nonpos _).trans (Int.natCast_nonneg k))
  have hround := abs_rounded_le hgrid hq
  obtain ⟨hfinite, hvalue⟩ := h.isFinite (hround.trans_lt (two_pow_lt_bound hk))
  exact ⟨hfinite, hvalue.symm ▸ hround⟩

namespace Fits

theorem mono (h : Fits j x) (hjk : j ≤ k) : Fits k x :=
  ⟨h.finite, h.abs_le.trans (pow_le_pow_right₀ one_le_two hjk)⟩

theorem mul (hx : Fits j x) (hy : Fits k y) (hjk : j + k < 128) : Fits (j + k) (x * y) := by
  refine (cuts_mul hx.finite hy.finite).fits ?_ hjk
  rw [abs_mul, pow_add]
  exact mul_le_mul hx.abs_le hy.abs_le (abs_nonneg _) (by positivity)

theorem add (hx : Fits k x) (hy : Fits k y) (hk : k + 1 < 128) : Fits (k + 1) (x + y) := by
  refine (cuts_add hx.finite hy.finite).fits ?_ hk
  rw [pow_succ, mul_two]
  exact (abs_add_le _ _).trans (add_le_add hx.abs_le hy.abs_le)

end Fits

end Single
end Guardhouse
