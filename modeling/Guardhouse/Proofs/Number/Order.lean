import Guardhouse.Frame
import Mathlib

/-!
# Singles around zero

What timers need to know about the order of singles: a number that is not negative can be compared
with zero either way, and a timer that has run out stays at zero.
-/

namespace Guardhouse
namespace Single

open Float.Model (Format UnpackedFloat)
open Float.Model.UnpackedFloat

variable {x y : Float32}

/-! ### Comparing -/

theorem unpack_zero : (0 : Float32).toModel.unpack = .zero .positive := by
  with_unfolding_all rfl

theorem lt_iff : x < y ↔ x.toModel.unpack.compare y.toModel.unpack = some .lt := by
  show decide (x.toModel < y.toModel) = true ↔ _
  rw [decide_eq_true_iff]
  exact beq_iff_eq

theorem le_iff :
    x ≤ y ↔ (x.toModel.unpack.compare y.toModel.unpack).any (·.isLE) = true := by
  show decide (x.toModel ≤ y.toModel) = true ↔ _
  rw [decide_eq_true_iff]
  rfl

theorem le_of_lt (h : x < y) : x ≤ y := by
  rw [lt_iff] at h
  rw [le_iff, h]
  rfl

theorem pos_or_nonpos (h : 0 ≤ x) : 0 < x ∨ x ≤ 0 := by
  rw [le_iff, unpack_zero] at h
  rw [lt_iff, le_iff, unpack_zero]
  -- only what is not a number compares with nothing, and that is not at least zero
  cases hx : x.toModel.unpack with
  | infinity s => cases s <;> simp_all [UnpackedFloat.compare]
  | notANumber => simp_all [UnpackedFloat.compare]
  | zero s => simp [UnpackedFloat.compare]
  | finite s m e hm => cases s <;> simp_all [UnpackedFloat.compare]

/-! ### Below zero -/

theorem ofBitVec_unpackSign {format : Format} (sign : Sign) (exponent : BitVec _)
    (mantissa : BitVec _) :
    Sign.ofBitVec (unpackSign (packComponents format sign exponent mantissa)) = sign := by
  rw [unpackSign_packComponents, Sign.ofBitVec_toBitVec]

/-- What is packed with the sign of a negative number is not greater than zero. -/
theorem compare_unpack_of_negative {format : Format} {b : BitVec format.numBits}
    (h : Sign.ofBitVec (unpackSign b) = .negative) (s : Sign) :
    (UnpackedFloat.zero s).compare (unpack format b) ≠ some .lt := by
  rw [unpack]
  simp only [h]
  split
  · split <;> simp [UnpackedFloat.compare]
  · split
    · split <;> simp [UnpackedFloat.compare]
    · simp [UnpackedFloat.compare]

theorem not_pos_zero_sub (h : 0 ≤ x) : ¬0 < 0 - x := by
  rw [le_iff, unpack_zero] at h
  rw [lt_iff, unpack_zero]
  show UnpackedFloat.compare _ (unpack .binary32 (pack .binary32 (sub .binary32
    (0 : Float32).toModel.unpack x.toModel.unpack))) ≠ _
  rw [unpack_zero]
  cases hx : x.toModel.unpack with
  | notANumber => simp [hx, UnpackedFloat.compare] at h
  | zero s => cases s <;> decide
  | infinity s =>
    cases s with
    | negative => simp [hx, UnpackedFloat.compare] at h
    | positive => exact compare_unpack_of_negative (ofBitVec_unpackSign ..) _
  | finite s m e hm =>
    cases s with
    | negative => simp [hx, UnpackedFloat.compare] at h
    | positive =>
      apply compare_unpack_of_negative
      simp only [sub, pack]
      split
      · exact ofBitVec_unpackSign ..
      · split <;> exact ofBitVec_unpackSign ..

end Single

/-! ### Timers -/

theorem zero_le_atLeastZero (x : Float32) : 0 ≤ atLeastZero x := by
  unfold atLeastZero
  split
  · next h => exact Single.le_of_lt h
  · decide

theorem isFinite_atLeastZero {x : Float32} (h : x.isFinite = true) :
    (atLeastZero x).isFinite = true := by
  unfold atLeastZero
  split
  · exact h
  · decide

theorem atLeastZero_zero_sub {x : Float32} (h : 0 ≤ x) : atLeastZero (0 - x) = 0 :=
  if_neg (Single.not_pos_zero_sub h)

/-- Time never goes back. -/
theorem Frame.zero_le_dt (f : Frame) : 0 ≤ f.dt := by
  unfold dt
  split
  · exact zero_le_atLeastZero _
  · decide

theorem Frame.isFinite_dt (f : Frame) : f.dt.isFinite = true := by
  unfold dt
  split
  · next h => exact isFinite_atLeastZero h
  · decide

end Guardhouse
