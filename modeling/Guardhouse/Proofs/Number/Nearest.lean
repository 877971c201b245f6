import Guardhouse.Number.Rounding
import Mathlib

/-!
# The nearest number of a format

A format has the numbers `k * 2 ^ t` with few enough bits in `k` and with `t` not below the smallest
exponent (`OnGrid`). Between two powers of two they are evenly spaced, and `rounded` takes a rational
to the nearest of them, a tie going to the even multiple. Rounding keeps the order (`rounded_mono`)
and the numbers of the format (`OnGrid.rounded_eq`); both together bound a rounded quantity by every
number of the format that bounds the quantity itself.

There is no largest number here: what is too large for a format is cut off later.
-/

namespace Guardhouse

open Float.Model (Format)

/-! ### The nearest integer -/

/-- An integer nearest to a rational, and even if there is another one. -/
structure NearestEven (x : ℚ) (n : ℤ) : Prop where
  near : |x - n| ≤ 1 / 2
  even : |x - n| = 1 / 2 → Even n

/-- The nearest integer; of two that are equally near, the even one. -/
def roundEven (x : ℚ) : ℤ := if x = ⌊x⌋ + 1 / 2 then ⌊x⌋ + ⌊x⌋ % 2 else round x

namespace NearestEven

variable {x y : ℚ} {m n : ℤ}

theorem roundEven (x : ℚ) : NearestEven x (roundEven x) := by
  unfold Guardhouse.roundEven
  split
  · next htie =>
    obtain heven | hodd := Int.emod_two_eq_zero_or_one ⌊x⌋
    · rw [heven, add_zero]
      refine ⟨?_, fun _ => Int.even_iff.2 heven⟩
      rw [abs_le]
      constructor <;> linarith
    · rw [hodd]
      refine ⟨?_, fun _ => Int.even_iff.2 (by omega)⟩
      rw [abs_le]
      push_cast
      constructor <;> linarith
  · next hfree =>
    refine ⟨abs_sub_round x, fun htie => absurd ?_ hfree⟩
    rw [abs_sub_round_eq_min, min_eq_iff] at htie
    have hfloor : (⌊x⌋ : ℚ) + Int.fract x = x := Int.floor_add_fract x
    rcases htie with ⟨hfract, -⟩ | ⟨hfract, -⟩ <;> linarith

theorem le (hx : NearestEven x m) (hy : NearestEven y n) (h : x ≤ y) : m ≤ n := by
  by_contra hlt
  have hgap : (n : ℚ) + 1 ≤ m := by exact_mod_cast not_le.1 hlt
  have hxm := abs_le.1 hx.near
  have hyn := abs_le.1 hy.near
  -- both would lie half-way between `n` and `m = n + 1`, which are not both even
  have hm : |x - m| = 1 / 2 := by rw [abs_eq (by norm_num)]; right; linarith
  have hn : |y - n| = 1 / 2 := by rw [abs_eq (by norm_num)]; left; linarith
  have hsucc : m = n + 1 := by
    have hcast : (m : ℚ) = n + 1 := by linarith
    exact_mod_cast hcast
  obtain ⟨i, hi⟩ := hx.even hm
  obtain ⟨j, hj⟩ := hy.even hn
  omega

theorem eq (h : NearestEven x n) : Guardhouse.roundEven x = n :=
  le_antisymm ((NearestEven.roundEven x).le h le_rfl) (h.le (.roundEven x) le_rfl)

theorem neg (h : NearestEven x n) : NearestEven (-x) (-n) := by
  have habs : |-x - ((-n : ℤ) : ℚ)| = |x - n| := by
    rw [← abs_neg]
    push_cast
    congr 1
    ring
  exact ⟨habs ▸ h.near, fun htie => (h.even (habs ▸ htie)).neg⟩

theorem of_lt (h : |x - n| < 1 / 2) : NearestEven x n := ⟨h.le, fun htie => absurd htie h.ne⟩

end NearestEven

theorem roundEven_mono {x y : ℚ} (h : x ≤ y) : roundEven x ≤ roundEven y :=
  (NearestEven.roundEven x).le (.roundEven y) h

@[simp] theorem roundEven_intCast (n : ℤ) : roundEven n = n := (NearestEven.of_lt (by simp)).eq

@[simp] theorem roundEven_neg (x : ℚ) : roundEven (-x) = -roundEven x := (NearestEven.roundEven x).neg.eq

theorem le_roundEven {x : ℚ} {n : ℤ} (h : n ≤ x) : n ≤ roundEven x := by
  simpa using roundEven_mono h

theorem roundEven_le {x : ℚ} {n : ℤ} (h : x ≤ n) : roundEven x ≤ n := by
  simpa using roundEven_mono h

/-! ### The numbers of a format -/

section Grid

variable {F : Format} {x y r : ℚ}

/-- A number of a format, but for its size. -/
def OnGrid (F : Format) (x : ℚ) : Prop :=
  ∃ k t : ℤ, F.minExponent ≤ t ∧ |k| < 2 ^ F.mantissaBits ∧ x = k * 2 ^ t

/-- The exponent of the numbers of a format around `x`. -/
def place (F : Format) (x : ℚ) : ℤ := F.targetExponent (Int.log 2 |x| + 1)

/-- The number of a format nearest to `x`, a tie going to the even multiple. -/
def rounded (F : Format) (x : ℚ) : ℚ := roundEven (x / 2 ^ place F x) * 2 ^ place F x

theorem minExponent_le_place (F : Format) (x : ℚ) : F.minExponent ≤ place F x := le_max_right ..

theorem minExponent_nonpos (F : Format) : F.minExponent ≤ 0 := by
  have hpow : (1 : ℤ) ≤ 2 ^ (F.exponentBits - 1) := one_le_pow₀ one_le_two
  have hbits := F.hm
  unfold Format.minExponent Format.mantissaBits
  omega

@[simp] theorem place_neg (F : Format) (x : ℚ) : place F (-x) = place F x := by
  rw [place, place, abs_neg]

@[simp] theorem rounded_neg (F : Format) (x : ℚ) : rounded F (-x) = -rounded F x := by
  rw [rounded, rounded, place_neg, neg_div, roundEven_neg]
  push_cast
  ring

@[simp] theorem rounded_zero (F : Format) : rounded F 0 = 0 := by
  have hzero : roundEven 0 = 0 := by exact_mod_cast roundEven_intCast 0
  rw [rounded, zero_div, hzero, Int.cast_zero, zero_mul]

theorem mantissaBits_eq (F : Format) : F.mantissaBits = F.mantissaBitsWithoutImplicit + 1 :=
  Nat.add_comm ..

theorem two_zpow_pos (t : ℤ) : (0 : ℚ) < 2 ^ t := zpow_pos two_pos t

theorem two_zpow_add (s t : ℤ) : (2 : ℚ) ^ (s + t) = 2 ^ s * 2 ^ t := zpow_add₀ two_ne_zero s t

/-- At its place a number has no more bits than the format. -/
theorem abs_lt_two_zpow (F : Format) (x : ℚ) :
    |x| < 2 ^ (place F x + F.mantissaBits) := by
  refine (Int.lt_zpow_succ_log_self one_lt_two |x|).trans_le ?_
  apply zpow_le_zpow_right₀ one_le_two
  have hplace : Int.log 2 |x| + 1 - F.mantissaBits ≤ place F x := le_max_left ..
  omega

/-- Above the smallest exponent a number has all the bits of the format at its place. -/
theorem two_zpow_le_abs (hx : x ≠ 0) (h : F.minExponent < place F x) :
    2 ^ (place F x + F.mantissaBitsWithoutImplicit) ≤ |x| := by
  have hplace : place F x = Int.log 2 |x| + 1 - F.mantissaBits := by
    unfold place Format.targetExponent at h ⊢
    omega
  have hlog := Int.zpow_log_le_self (b := 2) (r := |x|) one_lt_two (abs_pos.2 hx)
  refine (zpow_le_zpow_right₀ one_le_two ?_).trans hlog
  have hbits := mantissaBits_eq F
  omega

theorem place_mono (hx : x ≠ 0) (h : |x| ≤ |y|) : place F x ≤ place F y := by
  have hlog := Int.log_mono_right (b := 2) (abs_pos.2 hx) h
  unfold place Format.targetExponent
  omega

theorem place_le {t : ℤ} (hx : x ≠ 0) (ht : F.minExponent ≤ t)
    (h : |x| < 2 ^ (t + F.mantissaBits)) : place F x ≤ t := by
  have hlog : Int.log 2 |x| < t + F.mantissaBits :=
    (Int.lt_zpow_iff_log_lt one_lt_two (abs_pos.2 hx)).1 h
  unfold place Format.targetExponent
  omega

theorem le_place {t : ℤ} (h : 2 ^ (t + F.mantissaBitsWithoutImplicit) ≤ |x|) : t ≤ place F x := by
  have hpos : 0 < |x| := (two_zpow_pos _).trans_le h
  have hlog : t + F.mantissaBitsWithoutImplicit ≤ Int.log 2 |x| :=
    (Int.zpow_le_iff_le_log one_lt_two hpos).1 h
  have hbits := mantissaBits_eq F
  unfold place Format.targetExponent
  omega

theorem mul_two_zpow_of_le (k : ℤ) {s t : ℤ} (h : s ≤ t) :
    ∃ n : ℤ, (k : ℚ) * 2 ^ t = n * 2 ^ s := by
  obtain ⟨d, rfl⟩ := Int.le.dest h
  refine ⟨k * 2 ^ d, ?_⟩
  rw [add_comm, two_zpow_add, zpow_natCast]
  push_cast
  ring

namespace OnGrid

theorem zero (F : Format) : OnGrid F 0 := ⟨0, F.minExponent, le_rfl, by simp, by simp⟩

theorem neg (hx : OnGrid F x) : OnGrid F (-x) := by
  obtain ⟨k, t, ht, hk, rfl⟩ := hx
  exact ⟨-k, t, ht, by rwa [abs_neg], by push_cast; ring⟩

theorem abs (hx : OnGrid F x) : OnGrid F |x| := by
  rcases abs_choice x with h | h <;> rw [h]
  · exact hx
  · exact hx.neg

/-- A multiple of a power of two with one bit too many is a number of the format if it is itself a
power of two. -/
theorem of_le {k t : ℤ} (ht : F.minExponent ≤ t) (hk : |k| ≤ 2 ^ F.mantissaBits) :
    OnGrid F (k * 2 ^ t) := by
  rcases hk.lt_or_eq with hlt | heq
  · exact ⟨k, t, ht, hlt, rfl⟩
  have hpow : (2 : ℤ) ^ F.mantissaBits = 2 ^ F.mantissaBitsWithoutImplicit * 2 := by
    rw [mantissaBits_eq, pow_succ]
  have hhalf : (0 : ℤ) < 2 ^ F.mantissaBitsWithoutImplicit := by positivity
  have htwice : (2 : ℚ) ^ (t + 1) = 2 ^ t * 2 := zpow_add_one₀ two_ne_zero t
  rcases (abs_eq (by positivity)).1 heq with rfl | rfl
  · refine ⟨2 ^ F.mantissaBitsWithoutImplicit, t + 1, by omega, ?_, ?_⟩
    · rw [abs_of_pos hhalf]
      omega
    · rw [hpow, htwice]
      push_cast
      ring
  · refine ⟨-2 ^ F.mantissaBitsWithoutImplicit, t + 1, by omega, ?_, ?_⟩
    · rw [abs_neg, abs_of_pos hhalf]
      omega
    · rw [hpow, htwice]
      push_cast
      ring

/-- A number of a format is a multiple of every power of two up to its place. -/
theorem exists_mul (hx : OnGrid F x) {s : ℤ} (hs : s ≤ place F x) : ∃ k : ℤ, x = k * 2 ^ s := by
  obtain ⟨k, t, ht, hk, rfl⟩ := hx
  rcases eq_or_ne k 0 with rfl | hk0
  · exact ⟨0, by simp⟩
  have hkq : |(k : ℚ)| < 2 ^ F.mantissaBits := by exact_mod_cast hk
  have hsize : |(k : ℚ) * 2 ^ t| < 2 ^ (t + F.mantissaBits) := by
    rw [abs_mul, abs_of_pos (two_zpow_pos t), two_zpow_add, zpow_natCast, mul_comm]
    exact mul_lt_mul_of_pos_left hkq (two_zpow_pos t)
  have hne : (k : ℚ) * 2 ^ t ≠ 0 :=
    mul_ne_zero (Int.cast_ne_zero.2 hk0) (two_zpow_pos t).ne'
  exact mul_two_zpow_of_le k (hs.trans (place_le hne ht hsize))

/-- Rounding changes nothing that is on the grid. -/
theorem rounded_eq (hx : OnGrid F x) : rounded F x = x := by
  obtain ⟨k, hk⟩ := hx.exists_mul le_rfl
  have hscaled : x / 2 ^ place F x = k := by
    rw [div_eq_iff (two_zpow_pos _).ne']
    exact hk
  rw [rounded, hscaled, roundEven_intCast]
  exact hk.symm

end OnGrid

/-! ### Rounding -/

theorem abs_scaled_lt (F : Format) (x : ℚ) : |x / 2 ^ place F x| < 2 ^ F.mantissaBits := by
  rw [abs_div, abs_of_pos (two_zpow_pos _), div_lt_iff₀ (two_zpow_pos _)]
  have hsize := abs_lt_two_zpow F x
  rwa [two_zpow_add, zpow_natCast, mul_comm] at hsize

theorem onGrid_rounded (F : Format) (x : ℚ) : OnGrid F (rounded F x) := by
  obtain ⟨hlow, hhigh⟩ := abs_lt.1 (abs_scaled_lt F x)
  refine .of_le (minExponent_le_place F x) (abs_le.2 ⟨?_, ?_⟩)
  · exact le_roundEven (by push_cast; exact hlow.le)
  · exact roundEven_le (by push_cast; exact hhigh.le)

theorem rounded_nonneg (hx : 0 ≤ x) : 0 ≤ rounded F x := by
  have hscaled : ((0 : ℤ) : ℚ) ≤ x / 2 ^ place F x := by
    rw [Int.cast_zero]
    exact div_nonneg hx (two_zpow_pos _).le
  exact mul_nonneg (by exact_mod_cast le_roundEven hscaled) (two_zpow_pos _).le

private theorem rounded_mono_of_nonneg (hx : 0 ≤ x) (h : x ≤ y) : rounded F x ≤ rounded F y := by
  rcases hx.eq_or_lt with rfl | hpos
  · rw [rounded_zero]
    exact rounded_nonneg h
  have hy : 0 < y := hpos.trans_le h
  have hplace : place F x ≤ place F y :=
    place_mono hpos.ne' (by rwa [abs_of_pos hpos, abs_of_pos hy])
  rcases hplace.eq_or_lt with heq | hlt
  · unfold rounded
    rw [heq]
    apply mul_le_mul_of_nonneg_right _ (two_zpow_pos _).le
    exact_mod_cast roundEven_mono (div_le_div_of_nonneg_right h (two_zpow_pos _).le)
  · -- a power of two lies in between
    have hfull := two_zpow_le_abs hy.ne' ((minExponent_le_place F x).trans_lt hlt)
    rw [abs_of_pos hy] at hfull
    have hbelow : rounded F x ≤ 2 ^ (place F x + F.mantissaBits) := by
      have hhigh : roundEven (x / 2 ^ place F x) ≤ 2 ^ F.mantissaBits :=
        roundEven_le (by push_cast; exact (abs_lt.1 (abs_scaled_lt F x)).2.le)
      rw [two_zpow_add, zpow_natCast, mul_comm]
      apply mul_le_mul_of_nonneg_right _ (two_zpow_pos _).le
      exact_mod_cast hhigh
    have habove : 2 ^ (place F y + F.mantissaBitsWithoutImplicit) ≤ rounded F y := by
      have hlow : (2 : ℤ) ^ F.mantissaBitsWithoutImplicit ≤ roundEven (y / 2 ^ place F y) := by
        apply le_roundEven
        rw [le_div_iff₀ (two_zpow_pos _), mul_comm]
        push_cast
        rwa [two_zpow_add, zpow_natCast] at hfull
      rw [two_zpow_add, zpow_natCast, mul_comm]
      apply mul_le_mul_of_nonneg_right _ (two_zpow_pos _).le
      exact_mod_cast hlow
    refine hbelow.trans (le_trans ?_ habove)
    have hbits := mantissaBits_eq F
    exact zpow_le_zpow_right₀ one_le_two (by omega)

/-- Rounding keeps the order. -/
theorem rounded_mono (h : x ≤ y) : rounded F x ≤ rounded F y := by
  rcases le_total 0 x with hx | hx
  · exact rounded_mono_of_nonneg hx h
  rcases le_total 0 y with hy | hy
  · refine le_trans ?_ (rounded_nonneg hy)
    have hneg : 0 ≤ rounded F (-x) := rounded_nonneg (neg_nonneg.2 hx)
    rwa [rounded_neg, neg_nonneg] at hneg
  · have hneg : rounded F (-y) ≤ rounded F (-x) :=
      rounded_mono_of_nonneg (neg_nonneg.2 hy) (neg_le_neg h)
    rwa [rounded_neg, rounded_neg, neg_le_neg_iff] at hneg

theorem rounded_le (hy : OnGrid F y) (h : x ≤ y) : rounded F x ≤ y := hy.rounded_eq ▸ rounded_mono h

theorem le_rounded (hx : OnGrid F x) (h : x ≤ y) : x ≤ rounded F y := hx.rounded_eq ▸ rounded_mono h

theorem abs_rounded_le (hy : OnGrid F y) (h : |x| ≤ y) : |rounded F x| ≤ y := by
  obtain ⟨hlow, hhigh⟩ := abs_le.1 h
  exact abs_le.2 ⟨le_rounded hy.neg hlow, rounded_le hy hhigh⟩

/-- A number is not rounded to a lower place. -/
theorem place_le_place_rounded (hx : 0 < x) : place F x ≤ place F (rounded F x) := by
  rcases (minExponent_le_place F x).eq_or_lt with heq | hlt
  · rw [← heq]
    exact minExponent_le_place F _
  · have hfull := two_zpow_le_abs hx.ne' hlt
    rw [abs_of_pos hx] at hfull
    apply le_place
    rw [abs_of_nonneg (rounded_nonneg hx.le)]
    refine le_rounded ?_ hfull
    have hpow : (2 : ℚ) ^ (place F x + F.mantissaBitsWithoutImplicit) =
        ((2 ^ F.mantissaBitsWithoutImplicit : ℤ) : ℚ) * 2 ^ place F x := by
      rw [two_zpow_add, zpow_natCast, mul_comm]
      push_cast
      rfl
    rw [hpow]
    refine .of_le (minExponent_le_place F x) ?_
    rw [abs_of_pos (by positivity)]
    exact pow_le_pow_right₀ one_le_two (by rw [mantissaBits_eq]; exact Nat.le_succ _)

/-! ### Steps between two numbers -/

/-- The largest number below one. -/
def belowOne (F : Format) : ℚ := 1 - 1 / 2 ^ F.mantissaBits

theorem belowOne_nonneg (F : Format) : 0 ≤ belowOne F := by
  rw [belowOne, sub_nonneg, div_le_one (by positivity)]
  exact one_le_pow₀ one_le_two

theorem onGrid_belowOne (h : F.minExponent ≤ -F.mantissaBits) : OnGrid F (belowOne F) := by
  have hp : (0 : ℤ) < 2 ^ F.mantissaBits := by positivity
  refine ⟨2 ^ F.mantissaBits - 1, -F.mantissaBits, h, ?_, ?_⟩
  · rw [abs_of_nonneg (by omega)]
    exact sub_one_lt _
  · rw [belowOne, zpow_neg, zpow_natCast]
    push_cast
    field_simp

/-- Of two numbers of a format the smaller one is smaller by a factor. -/
theorem OnGrid.le_mul_belowOne (hx : OnGrid F x) (hy : OnGrid F y) (h0 : 0 ≤ x) (h : x < y) :
    x ≤ y * belowOne F := by
  rcases h0.eq_or_lt with rfl | hpos
  · exact mul_nonneg h.le (belowOne_nonneg F)
  -- both are multiples of the power of two at the place of `x`
  have hplace : place F x ≤ place F y := by
    apply place_mono hpos.ne'
    rw [abs_of_pos hpos, abs_of_pos (hpos.trans h)]
    exact h.le
  obtain ⟨k, hk⟩ := hx.exists_mul le_rfl
  obtain ⟨n, hn⟩ := hy.exists_mul hplace
  have hunit := two_zpow_pos (place F x)
  have hsize : k < 2 ^ F.mantissaBits := by
    have hscaled := (abs_lt.1 (abs_scaled_lt F x)).2
    rw [(div_eq_iff hunit.ne').2 hk] at hscaled
    exact_mod_cast hscaled
  have hkn : k < n := by
    have hlt : (k : ℚ) * 2 ^ place F x < n * 2 ^ place F x := by rwa [← hk, ← hn]
    exact_mod_cast lt_of_mul_lt_mul_right hlt hunit.le
  have hfrac : ((k : ℚ) + 1) / 2 ^ F.mantissaBits ≤ 1 := by
    rw [div_le_one (by positivity)]
    exact_mod_cast hsize
  calc x = k * 2 ^ place F x := hk
    _ ≤ (k + 1) * belowOne F * 2 ^ place F x := by
      apply mul_le_mul_of_nonneg_right _ hunit.le
      rw [belowOne, mul_sub, mul_one, mul_one_div]
      linarith
    _ ≤ n * belowOne F * 2 ^ place F x := by
      apply mul_le_mul_of_nonneg_right _ hunit.le
      apply mul_le_mul_of_nonneg_right _ (belowOne_nonneg F)
      exact_mod_cast hkn
    _ = n * 2 ^ place F x * belowOne F := mul_right_comm _ _ _
    _ = y * belowOne F := by rw [← hn]

/-- Where the numbers of a format are evenly spaced, less than half a step is rounded off. -/
theorem rounded_le_of_lt_half {n t : ℤ} (ht : F.minExponent ≤ t)
    (hlow : 2 ^ F.mantissaBitsWithoutImplicit ≤ n) (hhigh : n < 2 ^ F.mantissaBits)
    (h : x < (n + 1 / 2) * 2 ^ t) : rounded F x ≤ n * 2 ^ t := by
  have hunit := two_zpow_pos t
  have hn : (0 : ℤ) < n := lt_of_lt_of_le (by positivity) hlow
  rcases le_or_gt x (n * 2 ^ t) with hle | hgt
  · exact rounded_le (.of_le ht (by rw [abs_of_pos hn]; exact hhigh.le)) hle
  have hpos : 0 < x := lt_trans (mul_pos (by exact_mod_cast hn) hunit) hgt
  have hplace : place F x = t := by
    apply le_antisymm
    · apply place_le hpos.ne' ht
      have hnext : (n : ℚ) + 1 ≤ 2 ^ F.mantissaBits := by exact_mod_cast hhigh
      rw [abs_of_pos hpos, two_zpow_add, zpow_natCast, mul_comm]
      exact h.trans_le (mul_le_mul_of_nonneg_right (by linarith) hunit.le)
    · apply le_place
      rw [abs_of_pos hpos, two_zpow_add, zpow_natCast, mul_comm]
      exact le_trans (mul_le_mul_of_nonneg_right (by exact_mod_cast hlow) hunit.le) hgt.le
  have hnear : NearestEven (x / 2 ^ t) n := by
    rw [← lt_div_iff₀ hunit] at hgt
    rw [← div_lt_iff₀ hunit] at h
    refine .of_lt (abs_lt.2 ⟨?_, ?_⟩) <;> linarith
  rw [rounded, hplace, hnear.eq]

/-- A multiple of the smallest number of a format that is rounded up has all the bits of the format,
and is more than half a step above the number before. -/
theorem exists_of_lt_rounded {k : ℤ} (hk : x = k * 2 ^ F.minExponent) (hx : 0 ≤ x)
    (hup : x < rounded F x) :
    ∃ n : ℤ, 2 ^ F.mantissaBitsWithoutImplicit ≤ n ∧ n < 2 ^ F.mantissaBits ∧
      rounded F x = (n + 1) * 2 ^ place F x ∧ (n + 1 / 2) * 2 ^ place F x ≤ x := by
  have hpos : 0 < x := by
    refine hx.lt_of_ne' fun hzero => ?_
    rw [hzero, rounded_zero] at hup
    exact hup.false
  -- at the smallest place it would not be rounded at all
  have hlarge : F.minExponent < place F x := by
    refine (minExponent_le_place F x).lt_of_ne fun heq => ?_
    have hscaled : x / 2 ^ place F x = k := by
      rw [div_eq_iff (two_zpow_pos _).ne', ← heq]
      exact hk
    rw [rounded, hscaled, roundEven_intCast, ← heq, ← hk] at hup
    exact hup.false
  have hunit := two_zpow_pos (place F x)
  obtain ⟨n, hn⟩ : ∃ n : ℤ, roundEven (x / 2 ^ place F x) = n + 1 := ⟨_, (sub_add_cancel _ 1).symm⟩
  have hrounded : rounded F x = (n + 1) * 2 ^ place F x := by
    rw [rounded, hn]
    push_cast
    rfl
  have hhalf : (n : ℚ) + 1 / 2 ≤ x / 2 ^ place F x := by
    have hnear := (NearestEven.roundEven (x / 2 ^ place F x)).near
    rw [hn, abs_le] at hnear
    push_cast at hnear
    linarith [hnear.1]
  refine ⟨n, ?_, ?_, hrounded, (le_div_iff₀ hunit).1 hhalf⟩
  · have hfull := two_zpow_le_abs hpos.ne' hlarge
    rw [abs_of_pos hpos, two_zpow_add, zpow_natCast, mul_comm] at hfull
    rw [hrounded] at hup
    have hlt : (2 : ℚ) ^ F.mantissaBitsWithoutImplicit < n + 1 :=
      lt_of_mul_lt_mul_right (hfull.trans_lt hup) hunit.le
    exact Int.lt_add_one_iff.1 (by exact_mod_cast hlt)
  · have hlt : (n : ℚ) < 2 ^ F.mantissaBits := by
      linarith [(abs_lt.1 (abs_scaled_lt F x)).2]
    exact_mod_cast hlt

theorem succ_mul_lt {n : ℤ} (hn : 2 ^ F.mantissaBitsWithoutImplicit ≤ n) (hr : r ≤ belowOne F) :
    ((n : ℚ) + 1) * r < n + 1 / 2 := by
  have hlow : (2 : ℚ) ^ F.mantissaBitsWithoutImplicit ≤ n := by exact_mod_cast hn
  have hpow : (0 : ℚ) < 2 ^ F.mantissaBitsWithoutImplicit := by positivity
  have hmore : 1 / 2 < ((n : ℚ) + 1) / 2 ^ F.mantissaBits := by
    rw [lt_div_iff₀ (by positivity), mantissaBits_eq, pow_succ]
    linarith
  calc ((n : ℚ) + 1) * r ≤ (n + 1) * belowOne F := mul_le_mul_of_nonneg_left hr (by linarith)
    _ = n + 1 - (n + 1) / 2 ^ F.mantissaBits := by rw [belowOne, mul_sub, mul_one, mul_one_div]
    _ < n + 1 / 2 := by linarith

/-- A multiple of the smallest number of a format may be rounded up, but not by so much that a
factor below one would not make up for it. -/
theorem rounded_rounded_mul_le {k : ℤ} (hk : x = k * 2 ^ F.minExponent) (hx : 0 ≤ x)
    (hr : r ≤ belowOne F) : rounded F (rounded F x * r) ≤ x := by
  rcases le_or_gt (rounded F x) x with hdown | hup
  · have hr1 : r ≤ 1 := hr.trans (sub_le_self _ (by positivity))
    refine (rounded_le (onGrid_rounded F x) ?_).trans hdown
    exact mul_le_of_le_one_right (rounded_nonneg hx) hr1
  obtain ⟨n, hlow, hhigh, hrounded, hhalf⟩ := exists_of_lt_rounded hk hx hup
  have hunit := two_zpow_pos (place F x)
  calc rounded F (rounded F x * r)
      ≤ n * 2 ^ place F x := by
        apply rounded_le_of_lt_half (minExponent_le_place F x) hlow hhigh
        rw [hrounded, mul_right_comm]
        exact mul_lt_mul_of_pos_right (succ_mul_lt hlow hr) hunit
    _ ≤ (n + 1 / 2) * 2 ^ place F x := mul_le_mul_of_nonneg_right (by linarith) hunit.le
    _ ≤ x := hhalf

/-- Part of the way from one number of a format to another, rounded at every step, leads to one in
between. -/
theorem rounded_step_mem_uIcc (hx : OnGrid F x) (hy : OnGrid F y) (hr0 : 0 ≤ r)
    (hr : r ≤ belowOne F) :
    rounded F (x + rounded F (rounded F (y - x) * r)) ∈ Set.uIcc x y := by
  wlog h : x ≤ y generalizing x y
  · have hneg := this hx.neg hy.neg (neg_le_neg (le_of_not_ge h))
    have hsub : -y - -x = -(y - x) := by ring
    rw [hsub, rounded_neg, neg_mul, rounded_neg, ← neg_add, rounded_neg, ← Set.mem_neg] at hneg
    simpa using hneg
  rw [Set.uIcc_of_le h]
  obtain ⟨m, hm⟩ := hx.exists_mul (minExponent_le_place F x)
  obtain ⟨n, hn⟩ := hy.exists_mul (minExponent_le_place F y)
  have hdiff : y - x = ((n - m : ℤ) : ℚ) * 2 ^ F.minExponent := by
    push_cast
    rw [sub_mul, ← hm, ← hn]
  have hfar := rounded_rounded_mul_le hdiff (sub_nonneg.2 h) hr
  have hnear : 0 ≤ rounded F (rounded F (y - x) * r) :=
    rounded_nonneg (mul_nonneg (rounded_nonneg (sub_nonneg.2 h)) hr0)
  exact ⟨le_rounded hx (by linarith), rounded_le hy (by linarith)⟩

end Grid
end Guardhouse
