import Guardhouse.Proofs.Random.Draws
import Guardhouse.Proofs.Number.Size

/-!
# Fractions

A fraction is drawn as the upper 24 bits of a word, over `2 ^ 24`. Singles have room for just so many
bits: a natural number of 24 bits is a single (`Single.toFloat32_exact`), and so is its quotient by
a power of two. So nothing is rounded on the way, and the largest fraction stays below one
(`Random.fraction_exact`).
-/

namespace Guardhouse

namespace Single

open Float.Model (Format)

/-! ### Natural numbers -/

theorem cuts_toFloat32 (n : UInt32) : Cuts (rounded .binary32 n.toNat) n.toFloat32 := by
  have hform := Unpacked.form_normalize (F := .binary32) n.toNat 0 .positive
  rw [zpow_zero, mul_one, Int.cast_natCast] at hform
  exact cuts_of_form hform

/-- A natural number of 24 bits, divided by a power of two, is a single. -/
theorem onGrid_div_two_pow {n d : Nat} (hn : n ≤ 2 ^ 24) (hd : d ≤ 149) :
    OnGrid .binary32 (n / 2 ^ d) := by
  have hgrid : OnGrid .binary32 (((n : ℤ) : ℚ) * 2 ^ (-d : ℤ)) := by
    apply OnGrid.of_le
    · show (-149 : ℤ) ≤ -d
      omega
    · rw [abs_of_nonneg (Int.natCast_nonneg n)]
      exact_mod_cast hn
  rwa [Int.cast_natCast, zpow_neg, zpow_natCast, ← div_eq_mul_inv] at hgrid

theorem toFloat32_exact {n : UInt32} (hn : n.toNat ≤ 2 ^ 24) :
    n.toFloat32.isFinite = true ∧ value n.toFloat32 = n.toNat := by
  have hgrid := onGrid_div_two_pow hn (Nat.zero_le 149)
  rw [pow_zero, div_one] at hgrid
  have hcuts := cuts_toFloat32 n
  rw [hgrid.rounded_eq] at hcuts
  apply hcuts.isFinite
  have hsmall : (n.toNat : ℚ) ≤ 2 ^ 24 := by exact_mod_cast hn
  rw [abs_of_nonneg (Nat.cast_nonneg _)]
  exact hsmall.trans_lt (two_pow_lt_bound (by decide))

end Single

namespace Random

open Single (value)

/-! ### The upper bits -/

/-- The upper 24 bits of the word that is drawn next. -/
def upperBits (r : Random) : Nat := (r.word.1 >>> 40).toNat

theorem toNat_shiftRight (x : UInt64) : (x >>> 40).toNat = x.toNat / 2 ^ 40 := by
  rw [UInt64.toNat_shiftRight, Nat.shiftRight_eq_div_pow]
  rfl

theorem upperBits_lt (r : Random) : r.upperBits < 2 ^ 24 := by
  have hword := r.word.1.toNat_lt
  rw [upperBits, toNat_shiftRight]
  omega

theorem toNat_halfWord (r : Random) : (r.halfWord.1 >>> 8).toNat = r.upperBits := by
  have hword := r.word.1.toNat_lt
  show ((r.word.1 >>> 32).toUInt32 >>> 8).toNat = (r.word.1 >>> 40).toNat
  rw [UInt32.toNat_shiftRight, UInt64.toNat_toUInt32, UInt64.toNat_shiftRight, toNat_shiftRight,
    Nat.shiftRight_eq_div_pow, Nat.shiftRight_eq_div_pow]
  show r.word.1.toNat / 2 ^ 32 % 2 ^ 32 / 2 ^ 8 = _
  omega

/-- Every pattern of upper bits is drawn. -/
theorem exists_upperBits_eq {k : Nat} (hk : k < 2 ^ 24) : ∃ r : Random, r.upperBits = k := by
  obtain ⟨r, hr⟩ := exists_word_eq (.ofNat (k * 2 ^ 40))
  refine ⟨r, ?_⟩
  rw [upperBits, hr, toNat_shiftRight, UInt64.toNat_ofNat', Nat.mod_eq_of_lt (by omega)]
  omega

/-! ### The fraction -/

/-- The whole number that fractions are out of. -/
def whole : Float32 := UInt32.toFloat32 16777216

theorem fraction_eq (r : Random) :
    r.fraction.1 = (r.halfWord.1 >>> 8).toFloat32 / whole := rfl

theorem value_whole : whole.isFinite = true ∧ value whole = 2 ^ 24 :=
  Single.toFloat32_exact (n := 16777216) le_rfl

theorem value_upperBits (r : Random) :
    (r.halfWord.1 >>> 8).toFloat32.isFinite = true ∧
      value (r.halfWord.1 >>> 8).toFloat32 = r.upperBits := by
  have hexact := Single.toFloat32_exact (n := r.halfWord.1 >>> 8)
  rw [toNat_halfWord] at hexact
  exact hexact r.upperBits_lt.le

theorem upperBits_div_mem (r : Random) : (r.upperBits / 2 ^ 24 : ℚ) ∈ Set.Ico 0 1 := by
  have hlt : (r.upperBits : ℚ) < 2 ^ 24 := by exact_mod_cast r.upperBits_lt
  constructor
  · positivity
  · rwa [div_lt_one (by norm_num)]

theorem value_fraction (r : Random) :
    r.fraction.1.isFinite = true ∧ value r.fraction.1 = r.upperBits / 2 ^ 24 := by
  obtain ⟨hupper, hupperBits⟩ := r.value_upperBits
  obtain ⟨hwhole, hscale⟩ := value_whole
  have hcuts := Single.cuts_div hupper hwhole (by rw [hscale]; positivity)
  rw [← fraction_eq, hupperBits, hscale,
    (Single.onGrid_div_two_pow r.upperBits_lt.le (by decide)).rounded_eq] at hcuts
  apply hcuts.isFinite
  obtain ⟨hlow, hhigh⟩ := r.upperBits_div_mem
  rw [abs_of_nonneg hlow]
  exact hhigh.trans Single.one_lt_bound

/-- The fraction that is drawn is exactly the upper 24 bits of the next word, over `2 ^ 24`: neither
making a single of them rounds anything nor dividing. So it is never below zero and never reaches
one; and every such fraction is drawn in some state. -/
theorem fraction_exact :
    (∀ r : Random,
      r.upperBits < 2 ^ 24 ∧
        value (r.halfWord.1 >>> 8).toFloat32 = r.upperBits ∧ value whole = 2 ^ 24 ∧
        r.fraction.1.isFinite = true ∧ value r.fraction.1 = r.upperBits / 2 ^ 24 ∧
        0 ≤ r.fraction.1 ∧ r.fraction.1 < 1 ∧ r.fraction.2 = r.word.2) ∧
    ∀ k : Fin (2 ^ 24), ∃ r : Random, value r.fraction.1 = k / 2 ^ 24 := by
  constructor
  · intro r
    obtain ⟨hfinite, hvalue⟩ := r.value_fraction
    obtain ⟨hlow, hhigh⟩ := r.upperBits_div_mem
    have hnumber := Single.isNumber_of_isFinite hfinite
    refine ⟨r.upperBits_lt, r.value_upperBits.2, value_whole.2, hfinite, hvalue, ?_, ?_, rfl⟩
    · exact Single.zero_le_iff.2 ⟨hnumber, hvalue ▸ hlow⟩
    · refine Single.lt_iff_value.2 ⟨hnumber, Single.isNumber_of_isFinite Single.isFinite_one, ?_⟩
      rw [hvalue, Single.value_one]
      exact hhigh
  · intro k
    obtain ⟨r, hr⟩ := exists_upperBits_eq k.isLt
    exact ⟨r, by rw [r.value_fraction.2, hr]⟩

end Random
end Guardhouse
