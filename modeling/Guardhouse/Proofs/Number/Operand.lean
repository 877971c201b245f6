import Guardhouse.Proofs.Number.Single

/-!
# Operands

What a result tells of the operands. What is not a number stays so through every operation, so the
operands of a number are numbers; and infinity is not lost by adding, multiplying or taking roots,
so the operands of a finite result are finite.
-/

namespace Guardhouse
namespace Single

open Float.Model (Format UnpackedFloat)
open Float.Model.UnpackedFloat
open Unpacked (settle)

variable {F : Format} {u v : UnpackedFloat} {x y : Float32}

theorem sqrt_eq_ofModel (x : Float32) :
    x.sqrt = .ofModel (.pack (UnpackedFloat.sqrt .binary32 x.toModel.unpack)) := rfl

/-! ### Numbers -/

theorem settle_notANumber : settle .binary32 .notANumber = .notANumber := by
  with_unfolding_all rfl

theorem ne_notANumber_of_settle (h : settle .binary32 u ≠ .notANumber) : u ≠ .notANumber := by
  rintro rfl
  exact h settle_notANumber

theorem ne_notANumber_of_add (h : u.add F v ≠ .notANumber) :
    u ≠ .notANumber ∧ v ≠ .notANumber := by
  constructor
  · rintro rfl
    exact h rfl
  · rintro rfl
    cases u <;> exact h rfl

theorem ne_notANumber_of_mul (h : u.mul F v ≠ .notANumber) :
    u ≠ .notANumber ∧ v ≠ .notANumber := by
  constructor
  · rintro rfl
    exact h rfl
  · rintro rfl
    cases u <;> exact h rfl

theorem isNumber_of_add (h : IsNumber (x + y)) : IsNumber x ∧ IsNumber y :=
  ne_notANumber_of_add (F := .binary32) (ne_notANumber_of_settle h)

theorem isNumber_of_mul (h : IsNumber (x * y)) : IsNumber x ∧ IsNumber y :=
  ne_notANumber_of_mul (F := .binary32) (ne_notANumber_of_settle h)

theorem isNumber_of_sqrt (h : IsNumber x.sqrt) : IsNumber x := by
  intro hx
  rw [sqrt_eq_ofModel, IsNumber, unpack_ofModel, hx] at h
  exact h settle_notANumber

/-! ### Finite results -/

theorem isFinite_of_isFinite_add (h : (u.add F v).isFinite = true) :
    u.isFinite = true ∧ v.isFinite = true := by
  have hneg (w : UnpackedFloat) : w.neg.neg = w := by
    cases w with
    | notANumber => rfl
    | _ s => cases s <;> rfl
  have hfinite (w : UnpackedFloat) : w.neg.isFinite = w.isFinite := by cases w <;> rfl
  rw [← hneg v, ← Unpacked.sub_eq_add] at h
  obtain ⟨hu, hv⟩ := isFinite_of_isFinite_sub h
  exact ⟨hu, hfinite v ▸ hv⟩

theorem isFinite_of_isFinite_mul (h : (u.mul F v).isFinite = true) :
    u.isFinite = true ∧ v.isFinite = true := by
  cases u with
  | notANumber => cases h
  | infinity s => cases v <;> cases h
  | _ =>
    cases v with
    | notANumber => cases h
    | infinity s => cases h
    | _ => exact ⟨rfl, rfl⟩

theorem isFinite_of_add (h : (x + y).isFinite = true) : x.isFinite = true ∧ y.isFinite = true :=
  isFinite_of_isFinite_add (F := .binary32) (isFinite_of_settle h)

theorem isFinite_of_mul (h : (x * y).isFinite = true) : x.isFinite = true ∧ y.isFinite = true :=
  isFinite_of_isFinite_mul (F := .binary32) (isFinite_of_settle h)

theorem isFinite_of_sqrt (h : x.sqrt.isFinite = true) : x.isFinite = true := by
  have hroot : (UnpackedFloat.sqrt .binary32 x.toModel.unpack).isFinite = true :=
    isFinite_of_settle h
  show x.toModel.unpack.isFinite = true
  cases hx : x.toModel.unpack with
  | notANumber => rw [hx] at hroot; cases hroot
  | infinity s => rw [hx] at hroot; cases s <;> cases hroot
  | _ => rfl

end Single
end Guardhouse
