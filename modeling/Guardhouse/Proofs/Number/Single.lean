import Guardhouse.Proofs.Number.Order
import Guardhouse.Proofs.Number.Packing

/-!
# The values of singles

A single has a rational value, where infinity stands behind all other numbers. Singles compare like
their values (`Single.le_iff_value`), unless they are not numbers; and the sum, difference, product
and quotient of finite singles have the exact value, rounded and cut off at the ends
(`Single.Cuts`).
-/

namespace Guardhouse
namespace Single

open Float.Model (Format UnpackedFloat)
open Float.Model.UnpackedFloat
open Unpacked (Form Stored rank settle limit unit)

variable {x y z : Float32}

/-- The value of a single, where what is not a number counts as zero. -/
def value (x : Float32) : ℚ := rank .binary32 x.toModel.unpack

/-- The single is a number, though it may be infinite. -/
def IsNumber (x : Float32) : Prop := x.toModel.unpack ≠ .notANumber

/-- What all singles stay below. -/
def bound : ℚ := limit .binary32

theorem bound_pos : 0 < bound := Unpacked.limit_pos _

theorem one_lt_bound : 1 < bound := one_lt_pow₀ one_lt_two (Nat.succ_ne_zero _)

theorem stored_unpack (x : Float32) : Stored .binary32 x.toModel.unpack :=
  Unpacked.stored_unpack x.toModel.valid (by decide)

/-! ### Order -/

theorem IsNumber.compare_eq (hx : IsNumber x) (hy : IsNumber y) :
    x.toModel.unpack.compare y.toModel.unpack = some (compare (value x) (value y)) :=
  Unpacked.compare_eq (stored_unpack x) (stored_unpack y) hx hy

theorem lt_iff_value : x < y ↔ IsNumber x ∧ IsNumber y ∧ value x < value y :=
  lt_iff.trans ((stored_unpack x).compare_eq_lt_iff (stored_unpack y))

theorem le_iff_value : x ≤ y ↔ IsNumber x ∧ IsNumber y ∧ value x ≤ value y :=
  le_iff.trans ((stored_unpack x).isLE_compare_iff (stored_unpack y))

theorem lt_of_le_of_lt (hxy : x ≤ y) (hyz : y < z) : x < z := by
  rw [le_iff_value] at hxy
  rw [lt_iff_value] at hyz ⊢
  exact ⟨hxy.1, hyz.2.1, hxy.2.2.trans_lt hyz.2.2⟩

theorem not_le (hx : IsNumber x) (hy : IsNumber y) : ¬x ≤ y ↔ y < x := by
  rw [le_iff_value, lt_iff_value]
  simp [hx, hy]

theorem not_lt (hx : IsNumber x) (hy : IsNumber y) : ¬x < y ↔ y ≤ x := by
  rw [← not_le hy hx, not_not]

/-! ### Finite singles -/

theorem isFinite_iff : x.isFinite = true ↔ IsNumber x ∧ |value x| < bound :=
  (stored_unpack x).isFinite_iff

theorem isNumber_of_isFinite (h : x.isFinite = true) : IsNumber x := (isFinite_iff.1 h).1

theorem form (h : x.isFinite = true) : Form .binary32 (value x) x.toModel.unpack :=
  (stored_unpack x).form h

theorem onGrid (h : x.isFinite = true) : OnGrid .binary32 (value x) := (form h).onGrid

/-- A number that is not finite is infinite. -/
theorem exists_infinity (h : IsNumber x) (hinf : ¬x.isFinite = true) :
    ∃ s, x.toModel.unpack = .infinity s := by
  change ¬x.toModel.unpack.isFinite = true at hinf
  unfold IsNumber at h
  cases hx : x.toModel.unpack with
  | infinity s => exact ⟨s, rfl⟩
  | notANumber => exact absurd hx h
  | zero s => exact absurd (hx ▸ rfl) hinf
  | finite s m e hm => exact absurd (hx ▸ rfl) hinf

theorem value_le_bound (x : Float32) : value x ≤ bound := by
  by_cases hnumber : IsNumber x
  · by_cases hx : x.isFinite = true
    · exact (abs_lt.1 (isFinite_iff.1 hx).2).2.le
    · obtain ⟨s, hs⟩ := exists_infinity hnumber hx
      unfold value bound
      rw [hs, Unpacked.rank_infinity]
      cases s with
      | negative =>
        rw [unit, neg_one_mul]
        linarith [Unpacked.limit_pos .binary32]
      | positive => rw [unit, one_mul]
  · unfold value
    rw [not_not.1 hnumber]
    exact bound_pos.le

/-! ### Arithmetic -/

/-- The single is the number `q`, cut off at the ends. -/
structure Cuts (q : ℚ) (x : Float32) : Prop where
  number : IsNumber x
  value : value x = max (-bound) (min q bound)

theorem unpack_ofModel (u : UnpackedFloat) :
    (Float32.ofModel (.pack u)).toModel.unpack = settle .binary32 u := rfl

theorem cuts_of_form {q : ℚ} {u : UnpackedFloat} (h : Form .binary32 q u) :
    Cuts q (.ofModel (.pack u)) :=
  have hsettle := h.rank_settle (by decide)
  ⟨hsettle.1, hsettle.2⟩

namespace Cuts

variable {q r : ℚ}

theorem isFinite (h : Cuts q x) (hq : |q| < bound) : x.isFinite = true ∧ Single.value x = q := by
  have hvalue : Single.value x = q := by
    rw [h.value, min_eq_left (abs_lt.1 hq).2.le, max_eq_right (abs_lt.1 hq).1.le]
  exact ⟨isFinite_iff.2 ⟨h.number, hvalue.symm ▸ hq⟩, hvalue⟩

theorem abs_lt_bound (h : Cuts q x) (hx : x.isFinite = true) : |q| < bound := by
  have hsmall := (isFinite_iff.1 hx).2
  rw [h.value, abs_lt, max_lt_iff, lt_max_iff, lt_min_iff, min_lt_iff] at hsmall
  rw [abs_lt]
  constructor
  · exact (hsmall.1.resolve_left (lt_irrefl _)).1
  · exact hsmall.2.2.resolve_right (lt_irrefl _)

end Cuts

theorem add_eq_ofModel (x y : Float32) :
    x + y = .ofModel (.pack (UnpackedFloat.add .binary32 x.toModel.unpack y.toModel.unpack)) := rfl

theorem sub_eq_ofModel (x y : Float32) :
    x - y = .ofModel (.pack (UnpackedFloat.sub .binary32 x.toModel.unpack y.toModel.unpack)) := rfl

theorem mul_eq_ofModel (x y : Float32) :
    x * y = .ofModel (.pack (UnpackedFloat.mul .binary32 x.toModel.unpack y.toModel.unpack)) := rfl

theorem div_eq_ofModel (x y : Float32) :
    x / y = .ofModel (.pack (UnpackedFloat.div .binary32 x.toModel.unpack y.toModel.unpack)) := rfl

theorem cuts_add (hx : x.isFinite = true) (hy : y.isFinite = true) :
    Cuts (rounded .binary32 (value x + value y)) (x + y) := cuts_of_form ((form hx).add (form hy))

theorem cuts_sub (hx : x.isFinite = true) (hy : y.isFinite = true) :
    Cuts (rounded .binary32 (value x - value y)) (x - y) := cuts_of_form ((form hx).sub (form hy))

theorem cuts_mul (hx : x.isFinite = true) (hy : y.isFinite = true) :
    Cuts (rounded .binary32 (value x * value y)) (x * y) := cuts_of_form ((form hx).mul (form hy))

theorem cuts_div (hx : x.isFinite = true) (hy : y.isFinite = true) (hne : value y ≠ 0) :
    Cuts (rounded .binary32 (value x / value y)) (x / y) :=
  cuts_of_form ((form hx).div (form hy) hne)

theorem isFinite_of_settle {u : UnpackedFloat} (h : (settle .binary32 u).isFinite = true) :
    u.isFinite = true := by
  cases u with
  | infinity s => cases s <;> exact absurd h (by decide)
  | notANumber => exact absurd h (by decide)
  | zero s => rfl
  | finite s m e hm => rfl

theorem isFinite_of_isFinite_sub {F : Format} {u v : UnpackedFloat}
    (h : (UnpackedFloat.sub F u v).isFinite = true) : u.isFinite = true ∧ v.isFinite = true := by
  cases u with
  | notANumber => cases h
  | infinity s =>
    cases v with
    | infinity t =>
      rw [UnpackedFloat.sub] at h
      split at h <;> cases h
    | _ => cases h
  | zero s =>
    cases v with
    | notANumber => cases h
    | infinity t => cases h
    | _ => exact ⟨rfl, rfl⟩
  | finite s m e hm =>
    cases v with
    | notANumber => cases h
    | infinity t => cases h
    | _ => exact ⟨rfl, rfl⟩

/-- What has a finite difference is finite itself. -/
theorem isFinite_of_sub (h : (x - y).isFinite = true) :
    x.isFinite = true ∧ y.isFinite = true := by
  apply isFinite_of_isFinite_sub (F := .binary32)
  apply isFinite_of_settle
  exact h

/-- A difference is finite if it lies between two finite ones. -/
theorem isFinite_sub_of_between {a b c d : Float32} (hx : x.isFinite = true)
    (hy : y.isFinite = true) (hlow : (a - b).isFinite = true) (hhigh : (c - d).isFinite = true)
    (hle : value a - value b ≤ value x - value y) (hge : value x - value y ≤ value c - value d) :
    (x - y).isFinite = true := by
  have hsmall {z t : Float32} (h : (z - t).isFinite = true) :
      |rounded .binary32 (value z - value t)| < bound := by
    obtain ⟨hz, ht⟩ := isFinite_of_sub h
    exact (cuts_sub hz ht).abs_lt_bound h
  have hlow' := (abs_lt.1 (hsmall hlow)).1.trans_le (rounded_mono hle)
  have hhigh' := (rounded_mono hge).trans_lt (abs_lt.1 (hsmall hhigh)).2
  exact ((cuts_sub hx hy).isFinite (abs_lt.2 ⟨hlow', hhigh'⟩)).1

theorem isFinite_sub_self (h : x.isFinite = true) : (x - x).isFinite = true := by
  refine ((cuts_sub h h).isFinite ?_).1
  rw [sub_self, rounded_zero, abs_zero]
  exact bound_pos

/-! ### What is not negative -/

theorem value_zero : value 0 = 0 := by
  unfold value
  rw [unpack_zero]
  rfl

theorem isNumber_zero : IsNumber 0 := by
  unfold IsNumber
  rw [unpack_zero]
  exact UnpackedFloat.noConfusion

theorem zero_le_iff : 0 ≤ x ↔ IsNumber x ∧ 0 ≤ value x := by
  rw [le_iff_value, value_zero]
  simp [isNumber_zero]

theorem Cuts.zero_le {q : ℚ} (h : Cuts q x) (hq : 0 ≤ q) : 0 ≤ x := by
  refine zero_le_iff.2 ⟨h.number, ?_⟩
  rw [h.value]
  exact le_max_of_le_right (le_min hq bound_pos.le)

theorem zero_le_of_infinity (h : x.toModel.unpack = .infinity .positive) : 0 ≤ x := by
  refine zero_le_iff.2 ⟨?_, ?_⟩
  · unfold IsNumber
    rw [h]
    exact UnpackedFloat.noConfusion
  · unfold value
    rw [h, Unpacked.rank_infinity, unit, one_mul]
    exact bound_pos.le

theorem unpack_ne_negative_infinity (h : 0 ≤ x) : x.toModel.unpack ≠ .infinity .negative := by
  intro hx
  have hvalue := (zero_le_iff.1 h).2
  unfold value at hvalue
  rw [hx, Unpacked.rank_infinity, unit, neg_one_mul] at hvalue
  linarith [Unpacked.limit_pos .binary32]

theorem unpack_of_infinite (h : 0 ≤ x) (hinf : ¬x.isFinite = true) :
    x.toModel.unpack = .infinity .positive := by
  obtain ⟨s, hs⟩ := exists_infinity (zero_le_iff.1 h).1 hinf
  cases s with
  | positive => exact hs
  | negative => exact absurd hs (unpack_ne_negative_infinity h)

theorem zero_le_mul_self (h : IsNumber x) : 0 ≤ x * x := by
  by_cases hx : x.isFinite = true
  · exact (cuts_mul hx hx).zero_le (rounded_nonneg (mul_self_nonneg _))
  · obtain ⟨s, hs⟩ := exists_infinity h hx
    apply zero_le_of_infinity
    rw [mul_eq_ofModel, unpack_ofModel, hs]
    cases s <;> exact Unpacked.unpack_packedInfinity _

theorem add_positive_infinity {F : Format} {u : UnpackedFloat} (hu : u ≠ .notANumber)
    (hneg : u ≠ .infinity .negative) :
    UnpackedFloat.add F (.infinity .positive) u = .infinity .positive ∧
      UnpackedFloat.add F u (.infinity .positive) = .infinity .positive := by
  cases u with
  | notANumber => exact absurd rfl hu
  | infinity s =>
    cases s with
    | negative => exact absurd rfl hneg
    | positive => exact ⟨rfl, rfl⟩
  | zero s => exact ⟨rfl, rfl⟩
  | finite s m e hm => exact ⟨rfl, rfl⟩

theorem zero_le_add (hx : 0 ≤ x) (hy : 0 ≤ y) : 0 ≤ x + y := by
  by_cases hxf : x.isFinite = true
  · by_cases hyf : y.isFinite = true
    · have hsum := add_nonneg (zero_le_iff.1 hx).2 (zero_le_iff.1 hy).2
      exact (cuts_add hxf hyf).zero_le (rounded_nonneg hsum)
    · apply zero_le_of_infinity
      rw [add_eq_ofModel, unpack_ofModel, unpack_of_infinite hy hyf,
        (add_positive_infinity (zero_le_iff.1 hx).1 (unpack_ne_negative_infinity hx)).2]
      exact Unpacked.unpack_packedInfinity _
  · apply zero_le_of_infinity
    rw [add_eq_ofModel, unpack_ofModel, unpack_of_infinite hx hxf,
      (add_positive_infinity (zero_le_iff.1 hy).1 (unpack_ne_negative_infinity hy)).1]
    exact Unpacked.unpack_packedInfinity _

theorem infinity_mul_of_pos {F : Format} (hx : 0 < x) :
    UnpackedFloat.mul F (.infinity .positive) x.toModel.unpack = .infinity .positive ∧
      UnpackedFloat.mul F x.toModel.unpack (.infinity .positive) = .infinity .positive := by
  rw [lt_iff, unpack_zero] at hx
  cases hu : x.toModel.unpack with
  | notANumber =>
    rw [hu] at hx
    cases hx
  | infinity s =>
    rw [hu] at hx
    cases s with
    | negative => cases hx
    | positive => exact ⟨rfl, rfl⟩
  | zero s =>
    rw [hu] at hx
    cases hx
  | finite s m e hm =>
    rw [hu] at hx
    cases s with
    | negative => cases hx
    | positive => exact ⟨rfl, rfl⟩

/-- A product is not negative, unless infinity meets zero. -/
theorem zero_le_mul (hx : 0 ≤ x) (hy : 0 ≤ y) (hx' : x.isFinite = true ∨ 0 < y)
    (hy' : y.isFinite = true ∨ 0 < x) : 0 ≤ x * y := by
  by_cases hxf : x.isFinite = true
  · by_cases hyf : y.isFinite = true
    · have hproduct := mul_nonneg (zero_le_iff.1 hx).2 (zero_le_iff.1 hy).2
      exact (cuts_mul hxf hyf).zero_le (rounded_nonneg hproduct)
    · apply zero_le_of_infinity
      rw [mul_eq_ofModel, unpack_ofModel, unpack_of_infinite hy hyf,
        (infinity_mul_of_pos (hy'.resolve_left hyf)).2]
      exact Unpacked.unpack_packedInfinity _
  · apply zero_le_of_infinity
    rw [mul_eq_ofModel, unpack_ofModel, unpack_of_infinite hx hxf,
      (infinity_mul_of_pos (hx'.resolve_left hxf)).1]
    exact Unpacked.unpack_packedInfinity _

theorem zero_le_of_zero {s : Sign} (h : x.toModel.unpack = .zero s) : 0 ≤ x := by
  refine zero_le_iff.2 ⟨?_, ?_⟩
  · unfold IsNumber
    rw [h]
    exact UnpackedFloat.noConfusion
  · unfold value
    rw [h]
    rfl

theorem zero_le_of_settle {m : Nat} {e : Int} {hm : 0 < m}
    (h : x.toModel.unpack = settle .binary32 (.finite .positive m e hm)) : 0 ≤ x := by
  obtain ⟨hnumber, q, hq, hrank⟩ := Unpacked.rank_settle_finite (F := .binary32) .positive (e := e) hm
  rw [unit, one_mul] at hrank
  refine zero_le_iff.2 ⟨?_, ?_⟩
  · unfold IsNumber
    rw [h]
    exact hnumber
  · unfold value
    rw [h, hrank]
    exact hq

theorem zero_le_of_roundWithAccuracy {m : Nat} {e : Int} {acc : Accuracy}
    (h : x.toModel.unpack = settle .binary32 (roundWithAccuracy .binary32 .positive m e acc)) :
    0 ≤ x := by
  rcases Unpacked.roundWithAccuracy_eq (F := .binary32) .positive m e acc with
    hzero | ⟨n, f, hn, hfinite⟩
  · rw [hzero] at h
    exact zero_le_of_zero (h.trans unpack_packedZero)
  · rw [hfinite] at h
    exact zero_le_of_settle h

theorem zero_le_sqrt (h : 0 ≤ x) : 0 ≤ x.sqrt := by
  have hsqrt : x.sqrt = .ofModel (.pack (UnpackedFloat.sqrt .binary32 x.toModel.unpack)) := rfl
  obtain ⟨hnumber, hvalue⟩ := zero_le_iff.1 h
  unfold IsNumber at hnumber
  unfold value at hvalue
  rcases hx : x.toModel.unpack with s | - | s | ⟨s, m, e, hm⟩
  case notANumber => exact absurd hx hnumber
  all_goals cases s
  · exact absurd hx (unpack_ne_negative_infinity h)
  · apply zero_le_of_infinity
    rw [hsqrt, unpack_ofModel, hx]
    exact Unpacked.unpack_packedInfinity _
  · apply zero_le_of_zero (s := .negative)
    rw [hsqrt, unpack_ofModel, hx]
    exact unpack_packedZero
  · apply zero_le_of_zero (s := .positive)
    rw [hsqrt, unpack_ofModel, hx]
    exact unpack_packedZero
  · have hpos : (0 : ℚ) < m * 2 ^ e := mul_pos (Nat.cast_pos.2 hm) (two_zpow_pos e)
    rw [hx, Unpacked.rank_finite, unit, neg_one_mul] at hvalue
    linarith
  · obtain ⟨q, f, acc, hround⟩ : ∃ q f acc, UnpackedFloat.sqrt .binary32 (.finite .positive m e hm) =
        roundWithAccuracy .binary32 .positive q f acc := ⟨_, _, _, rfl⟩
    apply zero_le_of_roundWithAccuracy
    rw [hsqrt, unpack_ofModel, hx, hround]

/-! ### Part of the way -/

/-- A number divided by a larger one is a proper fraction, even if the larger one is infinite. -/
theorem div_of_lt (hx : 0 ≤ x) (h : x < y) :
    (x / y).isFinite = true ∧ 0 ≤ value (x / y) ∧ value (x / y) ≤ belowOne .binary32 := by
  obtain ⟨hxn, hyn, hxy⟩ := lt_iff_value.1 h
  have hx0 := (zero_le_iff.1 hx).2
  have hy0 : 0 ≤ y := zero_le_iff.2 ⟨hyn, hx0.trans hxy.le⟩
  have hone : belowOne .binary32 ≤ 1 := sub_le_self _ (by positivity)
  have hbound := one_lt_bound
  have hxf : x.isFinite = true := by
    refine isFinite_iff.2 ⟨hxn, ?_⟩
    rw [abs_of_nonneg hx0]
    exact hxy.trans_le (value_le_bound y)
  by_cases hyf : y.isFinite = true
  · have hfrac : value x / value y ≤ belowOne .binary32 := by
      rw [div_le_iff₀ (hx0.trans_lt hxy), mul_comm]
      exact (onGrid hxf).le_mul_belowOne (onGrid hyf) hx0 hxy
    have hlow : 0 ≤ rounded .binary32 (value x / value y) :=
      rounded_nonneg (div_nonneg hx0 (hx0.trans hxy.le))
    have hhigh : rounded .binary32 (value x / value y) ≤ belowOne .binary32 :=
      rounded_le (onGrid_belowOne (by decide)) hfrac
    have hcuts := cuts_div hxf hyf (hx0.trans_lt hxy).ne'
    obtain ⟨hfinite, hvalue⟩ := hcuts.isFinite (abs_lt.2 ⟨by linarith, by linarith⟩)
    exact ⟨hfinite, hvalue ▸ hlow, hvalue ▸ hhigh⟩
  · obtain ⟨s, hzero⟩ : ∃ s, (x / y).toModel.unpack = .zero s := by
      rw [div_eq_ofModel, unpack_ofModel, unpack_of_infinite hy0 hyf]
      change x.toModel.unpack.isFinite = true at hxf
      cases hu : x.toModel.unpack with
      | infinity s =>
        rw [hu] at hxf
        cases hxf
      | notANumber => exact absurd hu hxn
      | zero s => exact ⟨_, unpack_packedZero⟩
      | finite s m e hm => exact ⟨_, unpack_packedZero⟩
    have hvalue : value (x / y) = 0 := by
      unfold value
      rw [hzero]
      rfl
    refine ⟨?_, hvalue.ge, hvalue.trans_le (belowOne_nonneg _)⟩
    show (x / y).toModel.unpack.isFinite = true
    rw [hzero]
    rfl

/-- Part of the way between two numbers ends between them. -/
theorem step_mem_uIcc {r : Float32} (hx : x.isFinite = true) (hy : y.isFinite = true)
    (hdiff : (y - x).isFinite = true) (hr : r.isFinite = true) (hr0 : 0 ≤ value r)
    (hr1 : value r ≤ belowOne .binary32) :
    (x + (y - x) * r).isFinite = true ∧
      value (x + (y - x) * r) ∈ Set.uIcc (value x) (value y) := by
  have hdelta := cuts_sub hy hx
  obtain ⟨-, hdvalue⟩ := hdelta.isFinite (hdelta.abs_lt_bound hdiff)
  have hpart : |value (y - x) * value r| ≤ |value (y - x)| := by
    rw [abs_mul, abs_of_nonneg hr0]
    exact mul_le_of_le_one_right (abs_nonneg _) (hr1.trans (sub_le_self _ (by positivity)))
  have hsmall : |rounded .binary32 (value (y - x) * value r)| < bound :=
    (abs_rounded_le (onGrid hdiff).abs hpart).trans_lt (isFinite_iff.1 hdiff).2
  obtain ⟨hmfinite, hmvalue⟩ := (cuts_mul hdiff hr).isFinite hsmall
  have hsum := cuts_add hx hmfinite
  rw [hmvalue, hdvalue] at hsum
  have hmem := rounded_step_mem_uIcc (onGrid hx) (onGrid hy) hr0 hr1
  have hinside : Set.uIcc (value x) (value y) ⊆ Set.Ioo (-bound) bound :=
    Set.ordConnected_Ioo.uIcc_subset (abs_lt.1 (isFinite_iff.1 hx).2) (abs_lt.1 (isFinite_iff.1 hy).2)
  obtain ⟨hfinite, hvalue⟩ := hsum.isFinite (abs_lt.2 (hinside hmem))
  exact ⟨hfinite, hvalue ▸ hmem⟩

/-! ### Zeros of either sign -/

theorem unpack_neg_zero : (-0 : Float32).toModel.unpack = .zero .negative := by
  with_unfolding_all rfl

/-- The square of a difference does not tell the zeros apart. -/
theorem mul_self_zero_sub (x : Float32) : (0 - x) * (0 - x) = (-0 - x) * (-0 - x) := by
  have hzero (s : Sign) (z : Float32) (hz : z.toModel.unpack = .zero s) :
      z * z = .ofModel (.pack (.zero .positive)) := by
    rw [mul_eq_ofModel, hz]
    cases s <;> rfl
  rcases hx : x.toModel.unpack with s | - | s | ⟨s, m, e, hm⟩
  case zero =>
    obtain ⟨t, ht⟩ : ∃ t, (0 - x).toModel.unpack = .zero t := by
      rw [sub_eq_ofModel, unpack_zero, hx]
      cases s <;> exact ⟨_, unpack_packedZero⟩
    obtain ⟨t', ht'⟩ : ∃ t, (-0 - x).toModel.unpack = .zero t := by
      rw [sub_eq_ofModel, unpack_neg_zero, hx]
      cases s <;> exact ⟨_, unpack_packedZero⟩
    rw [hzero t _ ht, hzero t' _ ht']
  all_goals
    have hsame : 0 - x = -0 - x := by
      rw [sub_eq_ofModel, sub_eq_ofModel, unpack_zero, unpack_neg_zero, hx]
      rfl
    rw [hsame]

theorem mul_self_sub_congr (h : (x == y) = true) (z : Float32) :
    (x - z) * (x - z) = (y - z) * (y - z) := by
  obtain ⟨-, -, rfl | ⟨rfl, rfl⟩ | ⟨rfl, rfl⟩⟩ := Float32.beq_iff_ne_nan_and_eq.1 h
  · rfl
  · exact mul_self_zero_sub z
  · exact (mul_self_zero_sub z).symm

end Single
end Guardhouse
