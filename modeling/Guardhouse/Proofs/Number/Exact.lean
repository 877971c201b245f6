import Guardhouse.Proofs.Number.Nearest

/-!
# The values of unpacked numbers

An unpacked number stands for a rational, its `value`. Rounding works on a mantissa with two more
bits, which stand for the rest that the mantissa leaves (`StandsFor`). So shifting the mantissa to
its place and rounding it there gives the nearest number of the format, in its canonical form
(`shows_roundWithAccuracy`), and each operation of arithmetic takes canonical forms to the canonical
form of the rounded result (`Form.add`, `Form.sub`, `Form.mul`, `Form.div`).
-/

namespace Guardhouse
namespace Unpacked

open Float.Model (Format UnpackedFloat totalExponent)
open Float.Model.UnpackedFloat

/-! ### Mantissas with residual bits -/

/-- The mantissa of `em` is `x` without its fraction; the round bit tells whether the fraction is at
least a half, and the sticky bit whether anything else is left of it. -/
def StandsFor (em : ExtendedMantissa) (x : ℚ) : Prop :=
  ∃ rest : ℚ, 0 ≤ rest ∧ rest < 1 ∧ (em.stickyBit = true ↔ rest ≠ 0) ∧
    x = em.mantissa + ((if em.roundBit then 1 else 0) + rest) / 2

namespace StandsFor

variable {em : ExtendedMantissa} {x : ℚ}

theorem le_lt (h : StandsFor em x) : em.mantissa ≤ x ∧ x < em.mantissa + 1 := by
  obtain ⟨rest, h0, h1, -, rfl⟩ := h
  constructor <;> split <;> linarith

theorem shiftRightOne (h : StandsFor em x) : StandsFor em.shiftRightOne (x / 2) := by
  obtain ⟨rest, h0, h1, hsticky, rfl⟩ := h
  have hdiv : (em.mantissa : ℚ) = 2 * (em.mantissa / 2 : ℕ) + (em.mantissa % 2 : ℕ) := by
    exact_mod_cast (Nat.div_add_mod em.mantissa 2).symm
  refine ⟨((if em.roundBit then 1 else 0) + rest) / 2, ?_, ?_, ?_, ?_⟩
  · split <;> linarith
  · split <;> linarith
  · cases hround : em.roundBit
    · simp [ExtendedMantissa.shiftRightOne, hround, hsticky]
    · have hne : (1 + rest) / 2 ≠ 0 := by linarith
      simp [ExtendedMantissa.shiftRightOne, hround, hne]
  · rw [hdiv]
    unfold ExtendedMantissa.shiftRightOne
    rcases Nat.mod_two_eq_zero_or_one em.mantissa with hbit | hbit <;> simp [hbit] <;> ring

theorem shiftRight (h : StandsFor em x) (n : Nat) : StandsFor (em >>> n) (x / 2 ^ n) := by
  show StandsFor (n.repeat ExtendedMantissa.shiftRightOne em) (x / 2 ^ n)
  induction n with
  | zero =>
    rw [pow_zero, div_one]
    exact h
  | succ n ih =>
    rw [pow_succ, ← div_div]
    exact ih.shiftRightOne

/-- Rounding the bits is rounding what they stand for. -/
theorem roundEven_eq (h : StandsFor em x) : roundEven x = em.roundedMantissa := by
  obtain ⟨m, round, sticky⟩ := em
  obtain ⟨rest, h0, h1, hsticky, rfl⟩ := h
  apply NearestEven.eq
  cases round with
  | false =>
    have hdown : NearestEven ((m : ℚ) + (0 + rest) / 2) m := by
      refine .of_lt (abs_lt.2 ⟨?_, ?_⟩) <;> push_cast <;> linarith
    cases sticky <;> exact hdown
  | true =>
    cases sticky with
    | false =>
      have hrest : rest = 0 := by simpa using hsticky
      have htie : |(m : ℚ) + (1 + rest) / 2 - ((m + m % 2 : ℕ) : ℤ)| = 1 / 2 := by
        rw [abs_eq (by norm_num)]
        rcases Nat.mod_two_eq_zero_or_one m with hbit | hbit
        · left
          rw [hbit, hrest]
          push_cast
          ring
        · right
          rw [hbit, hrest]
          push_cast
          ring
      exact ⟨htie.le, fun _ => by exact_mod_cast (show Even (m + m % 2) from Nat.even_iff.2 (by omega))⟩
    | true =>
      have hrest : rest ≠ 0 := by simpa using hsticky
      have hpos : 0 < rest := lt_of_le_of_ne h0 hrest.symm
      refine .of_lt (n := ((m + 1 : ℕ) : ℤ)) (abs_lt.2 ⟨?_, ?_⟩) <;> push_cast <;> simp <;> linarith

end StandsFor

theorem mantissa_ofMantissaAndAccuracy (m : Nat) (acc : Accuracy) :
    (ExtendedMantissa.ofMantissaAndAccuracy m acc).mantissa = m := by
  unfold ExtendedMantissa.ofMantissaAndAccuracy
  split <;> rfl

theorem standsFor_exact (m : Nat) : StandsFor (.ofMantissaAndAccuracy m .exact) m :=
  ⟨0, le_rfl, one_pos, by simp [ExtendedMantissa.ofMantissaAndAccuracy],
    by simp [ExtendedMantissa.ofMantissaAndAccuracy]⟩

/-- A mantissa with the accuracy of a fraction. -/
theorem standsFor_fraction (m : Nat) {r d : Nat} (hr : r < d) :
    StandsFor (.ofMantissaAndAccuracy m (accuracyOfFraction r d)) (m + r / d : ℚ) := by
  have hlt : (r : ℚ) < d := by exact_mod_cast hr
  have hd : (0 : ℚ) < d := (Nat.cast_nonneg r).trans_lt hlt
  unfold accuracyOfFraction
  split
  · next hzero =>
    rw [hzero, Nat.cast_zero, zero_div, add_zero]
    exact standsFor_exact m
  next hne =>
  have hpos : (0 : ℚ) < r := by exact_mod_cast Nat.pos_of_ne_zero hne
  cases hcompare : compare (2 * r) d with
  | lt =>
    have hhalf : 2 * (r : ℚ) < d := by exact_mod_cast compare_lt_iff_lt.1 hcompare
    refine ⟨2 * (r / d), by positivity, ?_, ?_, ?_⟩
    · rw [← mul_div_assoc, div_lt_one hd]
      exact hhalf
    · simp [ExtendedMantissa.ofMantissaAndAccuracy, hpos.ne', hd.ne']
    · simp [ExtendedMantissa.ofMantissaAndAccuracy]
  | eq =>
    have hhalf : 2 * (r : ℚ) = d := by exact_mod_cast compare_eq_iff_eq.1 hcompare
    refine ⟨0, le_rfl, one_pos, ?_, ?_⟩
    · simp [ExtendedMantissa.ofMantissaAndAccuracy]
    · simp only [ExtendedMantissa.ofMantissaAndAccuracy, if_true]
      field_simp
      linarith
  | gt =>
    have hhalf : (d : ℚ) < 2 * r := by exact_mod_cast compare_gt_iff_gt.1 hcompare
    refine ⟨2 * (r / d) - 1, ?_, ?_, ?_, ?_⟩
    · rw [sub_nonneg, ← mul_div_assoc, one_le_div hd]
      exact hhalf.le
    · have hone : (r : ℚ) / d < 1 := (div_lt_one hd).2 hlt
      linarith
    · have hne' : 2 * ((r : ℚ) / d) - 1 ≠ 0 := by
        rw [← mul_div_assoc]
        exact (sub_pos.2 ((one_lt_div hd).2 hhalf)).ne'
      simp [ExtendedMantissa.ofMantissaAndAccuracy, hne']
    · simp only [ExtendedMantissa.ofMantissaAndAccuracy, if_true]
      ring

/-- A quotient with the accuracy of its remainder. -/
theorem standsFor_quotient {n d : Nat} (hd : 0 < d) :
    StandsFor (.ofMantissaAndAccuracy (n / d) (accuracyOfFraction (n % d) d)) (n / d : ℚ) := by
  have hmod : (n : ℚ) = d * (n / d : ℕ) + (n % d : ℕ) := by
    exact_mod_cast (Nat.div_add_mod n d).symm
  have hdiv : (n : ℚ) / d = (n / d : ℕ) + (n % d : ℕ) / (d : ℚ) := by
    rw [div_eq_iff (Nat.cast_ne_zero.2 hd.ne'), add_mul,
      div_mul_cancel₀ _ (Nat.cast_ne_zero.2 hd.ne'), mul_comm]
    exact hmod
  rw [hdiv]
  exact standsFor_fraction _ (Nat.mod_lt n hd)

/-! ### Values -/

/-- A sign as a factor. -/
def unit : Sign → ℚ
  | .negative => -1
  | .positive => 1

theorem unit_neg (s : Sign) : unit (-s) = -unit s := by
  cases s
  · exact (neg_neg 1).symm
  · rfl

theorem unit_mul (s t : Sign) : unit (s * t) = unit s * unit t := by
  have hsign : s * t = match s with | .negative => -t | .positive => t := by
    cases s <;> cases t <;> rfl
  rw [hsign]
  cases s
  · exact (unit_neg t).trans (neg_one_mul _).symm
  · exact (one_mul _).symm

theorem unit_div (s t : Sign) : unit (s / t) = unit s / unit t := by
  have hsign : s / t = s * t := by cases s <;> cases t <;> rfl
  rw [hsign, unit_mul]
  cases s <;> cases t <;> simp [unit]

theorem abs_unit (s : Sign) : |unit s| = 1 := by cases s <;> simp [unit]

/-- The rational that a number stands for; zero, if it stands for none. -/
def value : UnpackedFloat → ℚ
  | .finite s m e _ => unit s * (m * 2 ^ e)
  | _ => 0

/-- The exponent of the number is the one that it has in a format. -/
def Canonical (F : Format) : UnpackedFloat → Prop
  | .finite _ m e _ => e = F.targetExponent (totalExponent m e)
  | _ => True

variable {F : Format} {x : ℚ} {m : Nat} {e : Int}

theorem abs_value_finite (s : Sign) (hm : 0 < m) : |value (.finite s m e hm)| = m * 2 ^ e := by
  rw [value, abs_mul, abs_unit, one_mul, abs_of_nonneg (by positivity)]

/-- The bits of a mantissa tell the size of what it is the integral part of. -/
theorem log_eq_of_le_of_lt (hm : 0 < m) (hlow : m * 2 ^ e ≤ x) (hhigh : x < (m + 1) * 2 ^ e) :
    Int.log 2 x = Nat.log2 m + e := by
  have hunit := two_zpow_pos e
  have hpos : 0 < x := (mul_pos (by exact_mod_cast hm) hunit).trans_le hlow
  have hbelow : (2 : ℚ) ^ Nat.log2 m ≤ m := by exact_mod_cast Nat.log2_self_le hm.ne'
  have habove : (m : ℚ) + 1 ≤ 2 ^ (Nat.log2 m + 1) := by
    exact_mod_cast Nat.succ_le_of_lt Nat.lt_log2_self
  apply le_antisymm
  · rw [← Int.lt_add_one_iff, ← Int.lt_zpow_iff_log_lt one_lt_two hpos, add_right_comm]
    rw [Nat.cast_ofNat, two_zpow_add]
    exact hhigh.trans_le (mul_le_mul_of_nonneg_right (by exact_mod_cast habove) hunit.le)
  · rw [← Int.zpow_le_iff_le_log one_lt_two hpos, Nat.cast_ofNat, two_zpow_add, zpow_natCast]
    exact (mul_le_mul_of_nonneg_right hbelow hunit.le).trans hlow

theorem place_eq_of_le_of_lt (hm : 0 < m) (hlow : m * 2 ^ e ≤ x) (hhigh : x < (m + 1) * 2 ^ e) :
    place F x = F.targetExponent (totalExponent m e) := by
  have hpos : 0 < x := (mul_pos (by exact_mod_cast hm) (two_zpow_pos e)).trans_le hlow
  rw [place, abs_of_pos hpos, log_eq_of_le_of_lt hm hlow hhigh]
  exact congrArg F.targetExponent (by unfold totalExponent; ring)

theorem place_mul_two_zpow (hm : 0 < m) :
    place F (m * 2 ^ e) = F.targetExponent (totalExponent m e) := by
  apply place_eq_of_le_of_lt hm le_rfl
  linarith [two_zpow_pos e]

theorem Canonical.place_eq {s : Sign} {hm : 0 < m} (h : Canonical F (.finite s m e hm)) :
    place F (m * 2 ^ e) = e := (place_mul_two_zpow hm).trans h.symm

/-- The exponent that a mantissa suggests is that of the number that it stands for, even if it has
lost all of its bits. -/
theorem targetExponent_eq {em : ExtendedMantissa} (hx : 0 < x) (h : StandsFor em (x / 2 ^ e))
    (he : e ≤ place F x) : F.targetExponent (totalExponent em.mantissa e) = place F x := by
  have hunit := two_zpow_pos e
  obtain ⟨hlow, hhigh⟩ := h.le_lt
  rw [le_div_iff₀ hunit] at hlow
  rw [div_lt_iff₀ hunit] at hhigh
  rcases Nat.eq_zero_or_pos em.mantissa with hzero | hpos
  · rw [hzero, Nat.cast_zero, zero_add, one_mul] at hhigh
    have hlog : Int.log 2 |x| < e := by
      rw [abs_of_pos hx]
      exact (Int.lt_zpow_iff_log_lt one_lt_two hx).1 hhigh
    have hbits := mantissaBits_eq F
    rw [hzero]
    unfold place Format.targetExponent totalExponent at *
    simp only [Nat.log2_zero]
    omega
  · exact (place_eq_of_le_of_lt hpos hlow hhigh).symm

/-! ### Rounding -/

/-- Shifted to its place, a mantissa with its residual bits rounds to the nearest number. -/
theorem shiftToTargetExponent_eq {acc : Accuracy} (hx : 0 < x)
    (h : StandsFor (.ofMantissaAndAccuracy m acc) (x / 2 ^ e)) (he : e ≤ place F x) :
    ∃ em, shiftToTargetExponent F m e acc = (em, place F x) ∧
      StandsFor em (x / 2 ^ place F x) := by
  have htarget := targetExponent_eq hx h he
  rw [mantissa_ofMantissaAndAccuracy] at htarget
  obtain ⟨d, hd⟩ := Int.le.dest he
  have hshift : (place F x - e).toNat = d := by omega
  refine ⟨ExtendedMantissa.ofMantissaAndAccuracy m acc >>> d, ?_, ?_⟩
  · unfold shiftToTargetExponent shiftToExponent
    dsimp only
    rw [htarget, hshift, hd]
  · rw [← hd, two_zpow_add, zpow_natCast, ← div_div]
    exact h.shiftRight d

/-- Shifting a number of the format to its place loses nothing. -/
theorem exists_shift_of_onGrid (hx : 0 < x) (hgrid : OnGrid F x) (h : x = m * 2 ^ e)
    (he : e ≤ place F x) :
    ∃ em, shiftToTargetExponent F m e .exact = (em, place F x) ∧
      x = em.mantissa * 2 ^ place F x := by
  have hexact : StandsFor (.ofMantissaAndAccuracy m .exact) (x / 2 ^ e) := by
    rw [(div_eq_iff (two_zpow_pos e).ne').2 h]
    exact standsFor_exact m
  obtain ⟨em, hshift, hem⟩ := shiftToTargetExponent_eq hx hexact he
  refine ⟨em, hshift, ?_⟩
  obtain ⟨k, hk⟩ := hgrid.exists_mul le_rfl
  obtain ⟨hlow, hhigh⟩ := hem.le_lt
  rw [(div_eq_iff (two_zpow_pos _).ne').2 hk] at hlow hhigh
  have hkm : k = em.mantissa := by
    apply le_antisymm
    · exact Int.lt_add_one_iff.1 (by exact_mod_cast hhigh)
    · exact_mod_cast hlow
  rw [hkm, Int.cast_natCast] at hk
  exact hk

/-- The number is the canonical form of `y` with the sign `s`. -/
inductive Shows (F : Format) (s : Sign) (y : ℚ) : UnpackedFloat → Prop
  | zero (hy : y = 0) : Shows F s y (.zero s)
  | finite {m : Nat} (hm : 0 < m) (hy : y = m * 2 ^ place F y) :
      Shows F s y (.finite s m (place F y) hm)

/-- Whatever mantissa a positive number is given by, it is rounded to the nearest one. -/
theorem shows_roundWithAccuracy {acc : Accuracy} (s : Sign) (hx : 0 < x)
    (h : StandsFor (.ofMantissaAndAccuracy m acc) (x / 2 ^ e)) (he : e ≤ place F x) :
    Shows F s (rounded F x) (roundWithAccuracy F s m e acc) := by
  obtain ⟨em, hfirst, hem⟩ := shiftToTargetExponent_eq hx h he
  have hrounded : rounded F x = em.roundedMantissa * 2 ^ place F x := by
    rw [rounded, hem.roundEven_eq]
    push_cast
    rfl
  unfold roundWithAccuracy
  rw [hfirst]
  dsimp only
  rcases Nat.eq_zero_or_pos em.roundedMantissa with hzero | hpos
  · -- nothing is left, and shifting does not change that
    have hempty : (shiftToTargetExponent F 0 (place F x) .exact).1.mantissa = 0 := by
      have hle := ((standsFor_exact 0).shiftRight
        (F.targetExponent (totalExponent 0 (place F x)) - place F x).toNat).le_lt.1
      rw [Nat.cast_zero, zero_div] at hle
      exact_mod_cast hle.antisymm (Nat.cast_nonneg _)
    rw [hzero, dif_pos hempty]
    exact .zero (by rw [hrounded, hzero, Nat.cast_zero, zero_mul])
  · -- the mantissa may have become too long, but then its last bit is zero
    have hy : 0 < rounded F x := by
      rw [hrounded]
      exact mul_pos (by exact_mod_cast hpos) (two_zpow_pos _)
    obtain ⟨em', hsecond, hkept⟩ := exists_shift_of_onGrid hy (onGrid_rounded F x) hrounded
      (place_le_place_rounded hx)
    have hne : em'.mantissa ≠ 0 := by
      intro hzero
      rw [hzero, Nat.cast_zero, zero_mul] at hkept
      exact hy.ne' hkept
    rw [hsecond, dif_neg hne]
    exact .finite _ hkept

theorem roundWithAccuracy_eq (s : Sign) (m : Nat) (e : Int) (acc : Accuracy) :
    roundWithAccuracy F s m e acc = .zero s ∨
      ∃ n f hn, roundWithAccuracy F s m e acc = .finite s n f hn := by
  unfold roundWithAccuracy
  dsimp only
  split
  · exact .inl rfl
  · next hne => exact .inr ⟨_, _, Nat.pos_of_ne_zero hne, rfl⟩

/-- Decreasing the exponent of a mantissa does not change what it stands for. -/
theorem shiftLeft_mul_two_zpow (m : Nat) (e : Int) (d : Nat) :
    ((m <<< d : ℕ) : ℚ) * 2 ^ (e - d) = m * 2 ^ e := by
  rw [Nat.shiftLeft_eq, zpow_sub₀ two_ne_zero, zpow_natCast]
  push_cast
  field_simp

theorem shows_round (s : Sign) (hm : 0 < m) :
    Shows F s (rounded F (m * 2 ^ e)) (Float.Model.UnpackedFloat.round F s m e) := by
  have hx : (0 : ℚ) < m * 2 ^ e := mul_pos (by exact_mod_cast hm) (two_zpow_pos e)
  have hplace : place F (m * 2 ^ e) = F.targetExponent (totalExponent m e) := place_mul_two_zpow hm
  unfold Float.Model.UnpackedFloat.round decreaseExponent
  dsimp only
  rw [← hplace]
  apply shows_roundWithAccuracy s hx
  · have hshift := shiftLeft_mul_two_zpow m e (e - place F (m * 2 ^ e)).toNat
    rw [← (eq_div_iff (two_zpow_pos _).ne').2 hshift]
    exact standsFor_exact _
  · omega

/-! ### Canonical forms -/

/-- The number is a canonical form of `y`. -/
structure Form (F : Format) (y : ℚ) (u : UnpackedFloat) : Prop where
  finite : u.isFinite = true
  canonical : Canonical F u
  value : value u = y

variable {y : ℚ} {u v : UnpackedFloat}

theorem Shows.form {s : Sign} (h : Shows F s y u) : Form F (unit s * y) u := by
  cases h with
  | zero hy => exact ⟨rfl, trivial, by rw [hy, mul_zero]; rfl⟩
  | @finite m hm hy =>
    refine ⟨rfl, ?_, by rw [value, ← hy]⟩
    show place F y = F.targetExponent (totalExponent m (place F y))
    rw [← place_mul_two_zpow hm, ← hy]

theorem Form.onGrid (h : Form F y u) : OnGrid F y := by
  obtain ⟨hfinite, hcanonical, rfl⟩ := h
  cases u with
  | infinity s => cases hfinite
  | notANumber => cases hfinite
  | zero s => exact .zero F
  | finite s m e hm =>
    have hgrid : OnGrid F (m * 2 ^ e) := by
      refine ⟨m, e, ?_, ?_, by push_cast; rfl⟩
      · rw [← hcanonical.place_eq]
        exact minExponent_le_place F _
      · have hscaled := abs_scaled_lt F ((m : ℚ) * 2 ^ e)
        rw [hcanonical.place_eq, mul_div_cancel_right₀ _ (two_zpow_pos e).ne'] at hscaled
        exact_mod_cast hscaled
    rw [Unpacked.value]
    cases s with
    | negative =>
      rw [unit, neg_one_mul]
      exact hgrid.neg
    | positive =>
      rw [unit, one_mul]
      exact hgrid

theorem form_normalize (k : Int) (e : Int) (s : Sign) :
    Form F (rounded F (k * 2 ^ e)) (Float.Model.UnpackedFloat.normalize F k e s) := by
  unfold Float.Model.UnpackedFloat.normalize
  split
  · next hcompare =>
    have hneg : k < 0 := compare_lt_iff_lt.1 hcompare
    have hcast : (k : ℚ) = -((-k).toNat : ℕ) := by
      have hnat : (((-k).toNat : ℕ) : ℤ) = -k := Int.toNat_of_nonneg (by omega)
      rw [← Int.cast_natCast, hnat]
      push_cast
      ring
    rw [hcast, neg_mul, rounded_neg, ← neg_one_mul]
    exact (shows_round .negative (by omega)).form
  · next hcompare =>
    rw [compare_eq_iff_eq.1 hcompare, Int.cast_zero, zero_mul, rounded_zero]
    exact ⟨rfl, trivial, rfl⟩
  · next hcompare =>
    have hpos : 0 < k := compare_gt_iff_gt.1 hcompare
    have hcast : (k : ℚ) = (k.toNat : ℕ) := by
      have hnat : ((k.toNat : ℕ) : ℤ) = k := Int.toNat_of_nonneg hpos.le
      rw [← Int.cast_natCast, hnat]
    rw [hcast, ← one_mul (rounded F _)]
    exact (shows_round .positive (by omega)).form

/-! ### Arithmetic -/

theorem apply_eq (s : Sign) (n : Int) : ((s.apply n : ℤ) : ℚ) = unit s * n := by
  cases s
  · exact (Int.cast_neg n).trans (neg_one_mul _).symm
  · exact (one_mul _).symm

theorem Form.neg (h : Form F y u) : Form F (-y) u.neg := by
  obtain ⟨hfinite, hcanonical, rfl⟩ := h
  cases u with
  | infinity s => cases hfinite
  | notANumber => cases hfinite
  | zero s => exact ⟨rfl, trivial, neg_zero.symm⟩
  | finite s m e hm => exact ⟨rfl, hcanonical, by rw [Unpacked.value, ← neg_mul, ← unit_neg]; rfl⟩

/-- Two numbers brought to the same exponent. -/
theorem aligned_add (s t : Sign) (m n : Nat) (e f : Int) :
    unit s * (m * 2 ^ e) + unit t * (n * 2 ^ f) =
      ((s.apply ((m <<< (e - min e f).toNat : ℕ) : ℤ) +
        t.apply ((n <<< (f - min e f).toNat : ℕ) : ℤ) : ℤ) : ℚ) * 2 ^ min e f := by
  have hm := shiftLeft_mul_two_zpow m e (e - min e f).toNat
  have hn := shiftLeft_mul_two_zpow n f (f - min e f).toNat
  rw [show e - (e - min e f).toNat = min e f by omega] at hm
  rw [show f - (f - min e f).toNat = min e f by omega] at hn
  rw [← hm, ← hn, Int.cast_add, apply_eq, apply_eq, Int.cast_natCast, Int.cast_natCast]
  ring

theorem Form.add (hu : Form F x u) (hv : Form F y v) :
    Form F (rounded F (x + y)) (u.add F v) := by
  cases u with
  | infinity s => cases hu.finite
  | notANumber => cases hu.finite
  | zero s =>
    have hx : x = 0 := hu.value.symm
    cases v with
    | infinity t => cases hv.finite
    | notANumber => cases hv.finite
    | zero t =>
      have hy : y = 0 := hv.value.symm
      rw [hx, hy, add_zero, rounded_zero]
      cases s <;> cases t <;> exact ⟨rfl, trivial, rfl⟩
    | finite t n f hn =>
      rw [hx, zero_add, hv.onGrid.rounded_eq]
      exact hv
  | finite s m e hm =>
    cases v with
    | infinity t => cases hv.finite
    | notANumber => cases hv.finite
    | zero t =>
      have hy : y = 0 := hv.value.symm
      rw [hy, add_zero, hu.onGrid.rounded_eq]
      exact hu
    | finite t n f hn =>
      rw [← hu.value, ← hv.value, Unpacked.value, Unpacked.value, aligned_add]
      exact form_normalize _ _ _

theorem sub_eq_add (u v : UnpackedFloat) : u.sub F v = u.add F v.neg := by
  cases u <;> cases v <;> try rfl
  next s m e hm t n f hn =>
  have hneg (k : Int) : t.apply k = -(-t).apply k := by
    cases t
    · rfl
    · exact (neg_neg k).symm
  unfold sub UnpackedFloat.neg UnpackedFloat.add
  simp only [hneg, sub_neg_eq_add]

theorem Form.sub (hu : Form F x u) (hv : Form F y v) :
    Form F (rounded F (x - y)) (u.sub F v) := by
  rw [sub_eq_add, sub_eq_add_neg]
  exact hu.add hv.neg

/-- The exponents of two numbers do not add up to more than the place of their product. -/
theorem add_le_place_mul {n : Nat} {f : Int} (hm : 0 < m) (hn : 0 < n)
    (he : place F (m * 2 ^ e) = e) (hf : place F (n * 2 ^ f) = f) :
    e + f ≤ place F ((m * 2 ^ e) * (n * 2 ^ f)) := by
  have hx := mul_pos (Nat.cast_pos.2 hm) (two_zpow_pos e)
  have hy := mul_pos (Nat.cast_pos.2 hn) (two_zpow_pos f)
  have hmq : (1 : ℚ) ≤ m := by exact_mod_cast hm
  have hnq : (1 : ℚ) ≤ n := by exact_mod_cast hn
  have hmin := minExponent_le_place F (m * 2 ^ e)
  have hmin' := minExponent_le_place F (n * 2 ^ f)
  rw [he] at hmin
  rw [hf] at hmin'
  rcases hmin.eq_or_lt with heq | hlt
  · rcases hmin'.eq_or_lt with heq' | hlt'
    · have hnonpos := minExponent_nonpos F
      have hplace := minExponent_le_place F ((m * 2 ^ e) * (n * 2 ^ f))
      omega
    · have hfull := two_zpow_le_abs hy.ne' (by rwa [hf])
      rw [hf, abs_of_pos hy] at hfull
      apply le_place
      rw [abs_of_pos (mul_pos hx hy), add_assoc, two_zpow_add]
      exact mul_le_mul (le_mul_of_one_le_left (two_zpow_pos e).le hmq) hfull
        (two_zpow_pos _).le hx.le
  · have hfull := two_zpow_le_abs hx.ne' (by rwa [he])
    rw [he, abs_of_pos hx] at hfull
    apply le_place
    rw [abs_of_pos (mul_pos hx hy), add_right_comm, two_zpow_add]
    exact mul_le_mul hfull (le_mul_of_one_le_left (two_zpow_pos f).le hnq)
      (two_zpow_pos f).le hx.le

/-- A positive number rounded under a sign is the number with that sign, rounded. -/
theorem rounded_unit_mul (s : Sign) (x : ℚ) : rounded F (unit s * x) = unit s * rounded F x := by
  cases s
  · simp [unit]
  · simp [unit]

theorem Form.mul (hu : Form F x u) (hv : Form F y v) :
    Form F (rounded F (x * y)) (u.mul F v) := by
  cases u with
  | infinity s => cases hu.finite
  | notANumber => cases hu.finite
  | zero s =>
    have hx : x = 0 := hu.value.symm
    rw [hx, zero_mul, rounded_zero]
    cases v with
    | infinity t => cases hv.finite
    | notANumber => cases hv.finite
    | zero t => exact ⟨rfl, trivial, rfl⟩
    | finite t n f hn => exact ⟨rfl, trivial, rfl⟩
  | finite s m e hm =>
    cases v with
    | infinity t => cases hv.finite
    | notANumber => cases hv.finite
    | zero t =>
      have hy : y = 0 := hv.value.symm
      rw [hy, mul_zero, rounded_zero]
      exact ⟨rfl, trivial, rfl⟩
    | finite t n f hn =>
      have hpos : (0 : ℚ) < (m * 2 ^ e) * (n * 2 ^ f) :=
        mul_pos (mul_pos (Nat.cast_pos.2 hm) (two_zpow_pos e))
          (mul_pos (Nat.cast_pos.2 hn) (two_zpow_pos f))
      have hmantissa : (m * 2 ^ e) * (n * 2 ^ f) / 2 ^ (e + f) = ((m * n : ℕ) : ℚ) := by
        rw [two_zpow_add, div_eq_iff (mul_ne_zero (two_zpow_pos e).ne' (two_zpow_pos f).ne')]
        push_cast
        ring
      have hproduct : x * y = unit (s * t) * ((m * 2 ^ e) * (n * 2 ^ f)) := by
        rw [← hu.value, ← hv.value, Unpacked.value, Unpacked.value, unit_mul]
        ring
      rw [hproduct, rounded_unit_mul]
      apply Shows.form
      apply shows_roundWithAccuracy _ hpos
      · rw [hmantissa]
        exact standsFor_exact _
      · exact add_le_place_mul hm hn hu.canonical.place_eq hv.canonical.place_eq

/-- A quotient is not much smaller than the sizes of its parts suggest. -/
theorem log_sub_log_le {x y : ℚ} (hx : 0 < x) (hy : 0 < y) :
    Int.log 2 x - Int.log 2 y ≤ Int.log 2 (x / y) + 1 := by
  have hlow := Int.zpow_log_le_self (b := 2) one_lt_two hx
  have hhigh := Int.lt_zpow_succ_log_self (b := 2) one_lt_two y
  have hquotient : ((2 : ℕ) : ℚ) ^ (Int.log 2 x - (Int.log 2 y + 1)) ≤ x / y := by
    rw [zpow_sub₀ (by norm_num)]
    exact div_le_div₀ hx.le hlow hy hhigh.le
  have hlog := (Int.zpow_le_iff_le_log one_lt_two (div_pos hx hy)).1 hquotient
  omega

/-- The quotient has as many bits as its place asks for. -/
theorem shows_divCore {n : Nat} {f : Int} (s : Sign) (hm : 0 < m) (hn : 0 < n) :
    Shows F s (rounded F ((m * 2 ^ e) / (n * 2 ^ f)))
      (let (q, target, acc) := divCore F m e n f; roundWithAccuracy F s q target acc) := by
  have hx := mul_pos (Nat.cast_pos.2 hm) (two_zpow_pos e)
  have hy := mul_pos (Nat.cast_pos.2 hn) (two_zpow_pos f)
  unfold divCore
  dsimp only
  set target := min (e - f) (F.targetExponent (totalExponent m e - totalExponent n f)) with htarget
  set d := (e - f - target).toNat with hd
  apply shows_roundWithAccuracy s (div_pos hx hy)
  · have hshift := shiftLeft_mul_two_zpow m e d
    have hexponent : e - d = target + f := by omega
    have hquotient : (m * 2 ^ e) / (n * 2 ^ f) / 2 ^ target = ((m <<< d : ℕ) : ℚ) / n := by
      rw [← hshift, hexponent, two_zpow_add]
      have hunit := (two_zpow_pos f).ne'
      have hunit' := (two_zpow_pos target).ne'
      field_simp
    rw [hquotient]
    exact standsFor_quotient hn
  · have hsizes := log_sub_log_le hx hy
    rw [log_eq_of_le_of_lt hm le_rfl (by linarith [two_zpow_pos e]),
      log_eq_of_le_of_lt hn le_rfl (by linarith [two_zpow_pos f])] at hsizes
    have hsmall : target ≤ F.targetExponent (totalExponent m e - totalExponent n f) :=
      min_le_right _ _
    refine hsmall.trans ?_
    rw [place, abs_of_pos (div_pos hx hy)]
    unfold Format.targetExponent totalExponent
    omega

theorem Form.div (hu : Form F x u) (hv : Form F y v) (hy : y ≠ 0) :
    Form F (rounded F (x / y)) (u.div F v) := by
  cases v with
  | infinity t => cases hv.finite
  | notANumber => cases hv.finite
  | zero t => exact absurd hv.value.symm hy
  | finite t n f hn =>
    cases u with
    | infinity s => cases hu.finite
    | notANumber => cases hu.finite
    | zero s =>
      have hx : x = 0 := hu.value.symm
      rw [hx, zero_div, rounded_zero]
      exact ⟨rfl, trivial, rfl⟩
    | finite s m e hm =>
      have hquotient : x / y = unit (s / t) * ((m * 2 ^ e) / (n * 2 ^ f)) := by
        rw [← hu.value, ← hv.value, Unpacked.value, Unpacked.value, unit_div, mul_div_mul_comm]
      rw [hquotient, rounded_unit_mul]
      exact (shows_divCore _ hm hn).form

end Unpacked
end Guardhouse
