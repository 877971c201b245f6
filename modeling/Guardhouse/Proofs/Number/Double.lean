import Guardhouse.Proofs.Number.Packing

/-!
# The order of doubles

What waits need to know about the doubles that their clocks show: how long something has taken, by
two finite readings, compares with a duration one way or the other (`Double.not_sub_lt`), and it has
not taken less if it began earlier (`Double.le_sub_of_le`).
-/

namespace Guardhouse
namespace Double

open Float.Model.UnpackedFloat
open Unpacked (Form Stored rank limit)

variable {x y z d : Float}

/-- The value of a double, where what is not a number counts as zero. -/
def value (x : Float) : ℚ := rank .binary64 x.toModel.unpack

/-- The double is a number, though it may be infinite. -/
def IsNumber (x : Float) : Prop := x.toModel.unpack ≠ .notANumber

theorem stored_unpack (x : Float) : Stored .binary64 x.toModel.unpack :=
  Unpacked.stored_unpack x.toModel.valid (by decide)

theorem form (h : x.isFinite = true) : Form .binary64 (value x) x.toModel.unpack :=
  (stored_unpack x).form h

/-! ### Order -/

theorem lt_iff_value : x < y ↔ IsNumber x ∧ IsNumber y ∧ value x < value y := by
  refine Iff.trans ?_ ((stored_unpack x).compare_eq_lt_iff (stored_unpack y))
  show decide (x.toModel < y.toModel) = true ↔ _
  rw [decide_eq_true_iff]
  exact beq_iff_eq

theorem le_iff_value : x ≤ y ↔ IsNumber x ∧ IsNumber y ∧ value x ≤ value y := by
  refine Iff.trans ?_ ((stored_unpack x).isLE_compare_iff (stored_unpack y))
  show decide (x.toModel ≤ y.toModel) = true ↔ _
  rw [decide_eq_true_iff]
  rfl

theorem not_lt (hx : IsNumber x) (hy : IsNumber y) : ¬x < y ↔ y ≤ x := by
  rw [lt_iff_value, le_iff_value]
  simp [hx, hy]

/-! ### Differences -/

/-- The difference of finite doubles has the exact value, rounded and cut off at the ends. -/
theorem value_sub (hx : x.isFinite = true) (hy : y.isFinite = true) :
    IsNumber (x - y) ∧ value (x - y) =
      max (-limit .binary64) (min (rounded .binary64 (value x - value y)) (limit .binary64)) :=
  ((form hx).sub (form hy)).rank_settle (by decide)

theorem not_sub_lt (hx : x.isFinite = true) (hy : y.isFinite = true) (hd : 0 < d) :
    ¬x - y < d ↔ d ≤ x - y :=
  not_lt (value_sub hx hy).1 (lt_iff_value.1 hd).2.1

theorem le_sub_of_le (hx : x.isFinite = true) (hy : y.isFinite = true) (hz : z.isFinite = true)
    (hzy : z ≤ y) (h : d ≤ x - y) : d ≤ x - z := by
  rw [le_iff_value] at hzy h ⊢
  obtain ⟨hnumber, hvalue⟩ := value_sub hx hz
  have hround : rounded .binary64 (value x - value y) ≤ rounded .binary64 (value x - value z) :=
    rounded_mono (sub_le_sub_left hzy.2.2 _)
  refine ⟨h.1, hnumber, h.2.2.trans ?_⟩
  rw [(value_sub hx hy).2, hvalue]
  exact max_le_max_left _ (min_le_min_right _ hround)

end Double
end Guardhouse
