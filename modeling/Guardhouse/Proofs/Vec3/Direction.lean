import Guardhouse.Proofs.Number.Angle
import Guardhouse.Proofs.Number.Root
import Guardhouse.Proofs.Vec3

/-!
# Directions

A vector that has a direction is about as long as it should be: no coordinate is more than twice its
length (`Vec3.abs_coord_lt`), however much is lost in squares that are too small for a single. So the
coordinates of a unit vector are no larger than four, which is far from the truth and good enough:
the product of two unit vectors is finite, and the angle between two directions is always a number,
and never negative (`Vec3.zero_le_angleDegrees`).
-/

namespace Guardhouse
namespace Vec3

open Single (value Fits)

variable {a b u v : Vec3}

/-! ### Lengths -/

theorem isFinite_lengthSquared (h : a.length.isFinite = true) : a.lengthSquared.isFinite = true :=
  Single.isFinite_of_sqrt h

theorem isFinite_square (h : a.length.isFinite = true) (i : Axis) :
    (a.coord i * a.coord i).isFinite = true := by
  obtain ⟨hplane, hz⟩ := Single.isFinite_of_add (isFinite_lengthSquared h)
  obtain ⟨hx, hy⟩ := Single.isFinite_of_add hplane
  cases i
  · exact hx
  · exact hy
  · exact hz

theorem isFinite_of_length (h : a.length.isFinite = true) : a.isFinite = true :=
  isFinite_iff.2 fun i => (Single.isFinite_of_mul (isFinite_square h i)).1

/-- The square of a coordinate is part of the square of the length. -/
theorem square_le_lengthSquared (h : a.length.isFinite = true) (i : Axis) :
    value (a.coord i * a.coord i) ≤ value a.lengthSquared := by
  have hpos (i : Axis) : 0 ≤ a.coord i * a.coord i :=
    Single.zero_le_mul_self
      (Single.isNumber_of_isFinite (Single.isFinite_of_mul (isFinite_square h i)).1)
  obtain ⟨hplane, hz⟩ := Single.isFinite_of_add (isFinite_lengthSquared h)
  obtain ⟨hxy, hzz⟩ := Single.value_le_add hplane hz
    (Single.zero_le_add (hpos .x) (hpos .y)) (hpos .z)
  obtain ⟨hxx, hyy⟩ := Single.value_le_add (isFinite_square h .x) (isFinite_square h .y)
    (hpos .x) (hpos .y)
  cases i
  · exact hxx.trans hxy
  · exact hyy.trans hxy
  · exact hzz

theorem value_epsilon : value epsilon = 2 ^ (-23 : Int) := by
  have hunpack : epsilon.toModel.unpack = .finite .positive (2 ^ 23) (-46) (by decide) := by
    with_unfolding_all rfl
  unfold value
  rw [hunpack, Unpacked.rank_finite, Unpacked.unit]
  norm_num

theorem two_zpow_lt_length (hlong : epsilon < a.length) : 2 ^ (-23 : Int) < value a.length := by
  rw [← value_epsilon]
  exact (Single.lt_iff_value.1 hlong).2.2

/-- A length between two powers of two, neither too small nor too large to divide by. -/
theorem exists_two_zpow_le_length (hfinite : a.length.isFinite = true) (hlong : epsilon < a.length) :
    ∃ k : Int, -24 < k ∧ k < 128 ∧ 2 ^ k ≤ value a.length ∧ value a.length < 2 * 2 ^ k := by
  have hlength := two_zpow_lt_length hlong
  obtain ⟨k, hlow, hhigh⟩ := exists_two_zpow_le ((two_zpow_pos _).trans hlength)
  refine ⟨k, ?_, ?_, hlow, hhigh⟩
  · have hnext : (2 : ℚ) ^ (-23 : Int) < 2 ^ (k + 1) := by
      rw [zpow_add_one₀ two_ne_zero, mul_comm]
      exact hlength.trans hhigh
    have hexponent := (zpow_lt_zpow_iff_right₀ one_lt_two).1 hnext
    omega
  · have hbound : value a.length < 2 ^ (128 : Int) := (abs_lt.1 (Single.isFinite_iff.1 hfinite).2).2
    exact (zpow_lt_zpow_iff_right₀ one_lt_two).1 (hlow.trans_lt hbound)

/-- No coordinate of a vector that has a direction is more than twice its length. -/
theorem abs_coord_lt (hfinite : a.length.isFinite = true) (hlong : epsilon < a.length) (i : Axis) :
    |value (a.coord i)| < 2 * value a.length := by
  have hsquare := isFinite_square hfinite i
  have hcoord := (Single.isFinite_of_mul hsquare).1
  have hlength := two_zpow_lt_length hlong
  have htiny := two_zpow_pos (-23)
  rcases eq_or_ne (value (a.coord i)) 0 with hzero | hne
  · rw [hzero, abs_zero]
    linarith
  obtain ⟨k, hlow, hhigh⟩ := exists_two_zpow_le (abs_pos.2 hne)
  suffices hroot : (2 : ℚ) ^ k ≤ value a.length by linarith
  rcases le_or_gt (-149) (2 * k) with hlarge | hsmall
  · apply Single.two_zpow_le_value_sqrt (isFinite_lengthSquared hfinite) (by omega)
    refine le_trans ?_ (square_le_lengthSquared hfinite i)
    have hcuts := Single.cuts_mul hcoord hcoord
    obtain ⟨-, hvalue⟩ := hcuts.isFinite (hcuts.abs_lt_bound hsquare)
    rw [hvalue]
    apply le_rounded (onGrid_two_zpow hlarge)
    rw [two_mul, two_zpow_add, ← abs_mul_abs_self (value (a.coord i))]
    exact mul_self_le_mul_self (two_zpow_pos k).le hlow
  · -- the square may be lost altogether, but then the coordinate is below `epsilon`
    exact (zpow_le_zpow_right₀ one_le_two (by omega)).trans hlength.le

/-! ### Unit vectors -/

theorem normalized?_eq_some (h : a.normalized? = some u) :
    a.length.isFinite = true ∧ epsilon < a.length ∧ u = a.scale (1 / a.length) := by
  unfold normalized? at h
  dsimp only at h
  split at h
  · cases h
  · next hlong =>
    cases h
    rw [Bool.or_eq_true, not_or, decide_eq_true_eq, Bool.not_eq_true', Bool.not_eq_false] at hlong
    refine ⟨hlong.2, (Single.not_le ?_ ?_).1 hlong.1, rfl⟩
    · exact Single.isNumber_of_isFinite hlong.2
    · exact Single.isNumber_of_isFinite (by decide)

/-- The coordinates of a unit vector are at most four. -/
theorem fits_coord_of_normalized (h : a.normalized? = some u) (i : Axis) : Fits 2 (u.coord i) := by
  obtain ⟨hfinite, hlong, rfl⟩ := normalized?_eq_some h
  have hcoord := (Single.isFinite_of_mul (isFinite_square hfinite i)).1
  obtain ⟨k, hk, hk', hlow, hhigh⟩ := exists_two_zpow_le_length hfinite hlong
  obtain ⟨hinverse, hle⟩ := Single.value_one_div_le hfinite (by omega) (by omega) hlow
  rw [coord_scale]
  refine (Single.cuts_mul hcoord hinverse).fits ?_ (by decide)
  have hunit := two_zpow_pos k
  have hfour : |value (a.coord i)| ≤ 4 * 2 ^ k := by linarith [abs_coord_lt hfinite hlong i]
  calc |value (a.coord i) * value (1 / a.length)|
      = |value (a.coord i)| * |value (1 / a.length)| := abs_mul _ _
    _ ≤ 4 * 2 ^ k * 2 ^ (-k) := mul_le_mul hfour hle (abs_nonneg _) (by positivity)
    _ = 2 ^ 2 := by
        rw [mul_assoc, ← two_zpow_add, add_neg_cancel, zpow_zero]
        norm_num

theorem isFinite_dot (hu : ∀ i, Fits 2 (u.coord i)) (hv : ∀ i, Fits 2 (v.coord i)) :
    (u.dot v).isFinite = true := by
  have hproduct (i : Axis) : Fits 4 (u.coord i * v.coord i) := (hu i).mul (hv i) (by decide)
  have hplane : Fits 5 (u.x * v.x + u.y * v.y) := (hproduct .x).add (hproduct .y) (by decide)
  have hdot : Fits 6 (u.dot v) := hplane.add ((hproduct .z).mono (by decide)) (by decide)
  exact hdot.finite

/-! ### Angles -/

/-- The angle between two directions is a number, and it is not negative. -/
theorem zero_le_angleDegrees (a b : Vec3) : 0 ≤ a.angleDegrees b := by
  unfold angleDegrees
  split
  · next u v hu hv =>
    have hdot := isFinite_dot (fits_coord_of_normalized hu) (fits_coord_of_normalized hv)
    obtain ⟨hfinite, hunit⟩ := Single.clamp_unit (Single.isNumber_of_isFinite hdot)
    exact Circular.zero_le_toDegrees (Circular.zero_le_arccos hfinite hunit)
  · decide

/-- What has no direction is off no direction. -/
theorem angleDegrees_of_none (a : Vec3) (h : b.normalized? = none) : a.angleDegrees b = 0 := by
  unfold angleDegrees
  rw [h]
  cases a.normalized? <;> rfl

theorem normalized?_of_short (h : a.length ≤ epsilon) : a.normalized? = none := by
  unfold normalized?
  simp [h]

theorem isSome_normalized? (h : 0 < a.angleDegrees b) : b.normalized?.isSome = true := by
  cases hb : b.normalized? with
  | some u => rfl
  | none =>
    rw [angleDegrees_of_none a hb] at h
    exact absurd h (by decide)

end Vec3
end Guardhouse
