import Guardhouse.Guard.Perception
import Guardhouse.Proofs.Number.Operand
import Guardhouse.Proofs.Vec3.Direction

/-!
# What a cone sees

A target is turned down if it is farther away than the cone reaches, or farther off its direction
than half of its angle. Both tests ask whether something is too large, and what is not a number is
never too large. The angle between two directions is always a number. The distance is one if the way
to the target is, and then the cone sees nothing beyond its range; if it is not, the range is not
checked at all (`VisionCone.sees_within_range`).
-/

namespace Guardhouse

namespace Vec3

variable {a b : Vec3}

/-- Every coordinate is a number, though it may be infinite. -/
def IsNumber (a : Vec3) : Prop := ∀ i, Single.IsNumber (a.coord i)

theorem isNumber_length_iff : Single.IsNumber a.length ↔ a.IsNumber := by
  constructor
  · intro h
    obtain ⟨hplane, hz⟩ := Single.isNumber_of_add (Single.isNumber_of_sqrt h)
    obtain ⟨hx, hy⟩ := Single.isNumber_of_add hplane
    intro i
    cases i
    · exact (Single.isNumber_of_mul hx).1
    · exact (Single.isNumber_of_mul hy).1
    · exact (Single.isNumber_of_mul hz).1
  · exact fun h => (Single.zero_le_iff.1 (zero_le_length h)).1

/-- The way between two finite points may be infinite, but it is a number. -/
theorem isNumber_sub (ha : a.isFinite = true) (hb : b.isFinite = true) : (a - b).IsNumber := by
  intro i
  rw [coord_sub]
  exact (Single.cuts_sub (isFinite_iff.1 ha i) (isFinite_iff.1 hb i)).number

end Vec3

namespace VisionCone

open Vec3 (epsilon)

variable {cone : VisionCone}

/-- The way to a target is straight up or down, or not too far off the direction of the cone. -/
def InView (cone : VisionCone) (forward offset : Vec3) : Prop :=
  offset.flat.length ≤ epsilon ∨
    forward.flat.angleDegrees offset.flat ≤ cone.angle * 0.5

/-- The two tests as they are made: each turns down what is too large. -/
theorem sees_eq_true (cone : VisionCone) (eye forward target : Vec3) (sight : Sight) :
    cone.sees eye forward target sight = true ↔
      ¬cone.distance < (target - eye).length ∧
        ¬((target - eye).flat.normalized?.isSome = true ∧
          cone.angle * 0.5 < forward.flat.angleDegrees (target - eye).flat) ∧
        sight eye target = true := by
  unfold sees
  dsimp only
  split
  · next hfar => simp [hfar]
  · next hnear =>
    split
    · next hoff => simp_all
    · next hin => simp_all

/-- What a cone of finite range sees is a finite way off. -/
theorem isFinite_sub_of_sees (hdistance : cone.distance.isFinite = true) {eye forward target : Vec3}
    {sight : Sight} (heye : eye.isFinite = true) (htarget : target.isFinite = true)
    (hsees : cone.sees eye forward target sight = true) : (target - eye).isFinite = true := by
  have hnear := ((sees_eq_true ..).1 hsees).1
  have hlength : 0 ≤ (target - eye).length :=
    Vec3.zero_le_length (Vec3.isNumber_sub htarget heye)
  rw [Single.not_lt (Single.isNumber_of_isFinite hdistance) (Single.zero_le_iff.1 hlength).1] at hnear
  exact Vec3.isFinite_of_length (Single.isFinite_of_le hlength hnear hdistance)

theorem zero_le_half (hangle : 0 < cone.angle) : 0 ≤ cone.angle * 0.5 :=
  Single.zero_le_mul (Single.le_of_lt hangle) (by decide) (.inr (by decide)) (.inl (by decide))

/-- A way straight up or down is off no direction, so it needs no case of its own. -/
theorem inView_iff (hangle : 0 < cone.angle) (forward offset : Vec3) :
    cone.InView forward offset ↔
      forward.flat.angleDegrees offset.flat ≤ cone.angle * 0.5 := by
  unfold InView
  constructor
  · rintro (hshort | hin)
    · rw [Vec3.angleDegrees_of_none _ (Vec3.normalized?_of_short hshort)]
      exact zero_le_half hangle
    · exact hin
  · exact .inr

/-- Since angles are numbers, what is not too far off the direction is in view. -/
theorem not_off_iff (hangle : 0 < cone.angle) (forward offset : Vec3) :
    ¬(offset.flat.normalized?.isSome = true ∧
        cone.angle * 0.5 < forward.flat.angleDegrees offset.flat) ↔
      cone.InView forward offset := by
  have hhalf := zero_le_half hangle
  have hturn := Vec3.zero_le_angleDegrees forward.flat offset.flat
  rw [inView_iff hangle,
    ← Single.not_lt (Single.zero_le_iff.1 hhalf).1 (Single.zero_le_iff.1 hturn).1]
  constructor
  · intro h hoff
    exact h ⟨Vec3.isSome_normalized? (Single.lt_of_le_of_lt hhalf hoff), hoff⟩
  · exact fun h hboth => h hboth.2

/-- If the way to the target is a number along every axis, and be it infinite, the cone sees the
target exactly if it is not beyond its range, in view and in a clear line. If it is not a number
along some axis, which never happens between finite points, the cone sees the target whenever it is
in view and in a clear line, whatever its range. -/
theorem sees_within_range (hdistance : 0 < cone.distance) (hangle : 0 < cone.angle)
    (eye forward target : Vec3) (sight : Sight) :
    let offset := target - eye
    (offset.IsNumber →
      (cone.sees eye forward target sight = true ↔
        offset.length ≤ cone.distance ∧ cone.InView forward offset ∧
          sight eye target = true)) ∧
    (¬offset.IsNumber →
      (cone.sees eye forward target sight = true ↔
        cone.InView forward offset ∧ sight eye target = true)) := by
  intro offset
  have hreach := (Single.lt_iff_value.1 hdistance).2.1
  constructor
  · intro hnumber
    rw [sees_eq_true, not_off_iff hangle,
      Single.not_lt hreach (Vec3.isNumber_length_iff.2 hnumber)]
  · intro hlost
    rw [sees_eq_true, not_off_iff hangle]
    refine and_iff_right fun hfar => hlost ?_
    exact Vec3.isNumber_length_iff.1 (Single.lt_iff_value.1 hfar).2.1

/-- A target at the end of the range is seen; one so far away that the way to it is infinite is
not. -/
theorem sees_within_range_far :
    let cone : VisionCone := ⟨10, 60⟩
    0 < cone.distance ∧ 0 < cone.angle ∧ cone.sees .zero .forward ⟨0, 0, 10⟩ .clear = true ∧
      cone.sees ⟨0, 0, -3e38⟩ .forward ⟨0, 0, 3e38⟩ .clear = false := by
  intro cone
  have hdistance : 0 < cone.distance := by decide
  have hangle : 0 < cone.angle := by decide
  refine ⟨hdistance, hangle, ?_, ?_⟩
  · have hnumber : (⟨0, 0, 10⟩ - .zero : Vec3).IsNumber := Vec3.isNumber_sub (by decide) (by decide)
    have hsees := (sees_within_range hdistance hangle .zero .forward ⟨0, 0, 10⟩ .clear).1 hnumber
    have hreached : (⟨0, 0, 10⟩ - .zero : Vec3).length ≤ cone.distance := by decide +kernel
    have hahead : Vec3.forward.flat.angleDegrees (⟨0, 0, 10⟩ - .zero : Vec3).flat ≤
        cone.angle * 0.5 := by
      decide +kernel
    exact hsees.2 ⟨hreached, .inr hahead, rfl⟩
  · have hnumber : (⟨0, 0, 3e38⟩ - ⟨0, 0, -3e38⟩ : Vec3).IsNumber :=
      Vec3.isNumber_sub (by decide +kernel) (by decide +kernel)
    have hsees := (sees_within_range hdistance hangle ⟨0, 0, -3e38⟩ .forward ⟨0, 0, 3e38⟩ .clear).1
      hnumber
    have hbeyond : ¬(⟨0, 0, 3e38⟩ - ⟨0, 0, -3e38⟩ : Vec3).length ≤ cone.distance := by
      decide +kernel
    rw [← Bool.not_eq_true]
    exact fun h => hbeyond (hsees.1 h).1

/-- A target that is nowhere in particular is seen, though it is not within the range. -/
theorem sees_nowhere :
    let cone : VisionCone := ⟨10, 60⟩
    let target : Vec3 := ⟨0 / 0, 0, 1⟩
    0 < cone.distance ∧ cone.distance.isFinite = true ∧ 0 < cone.angle ∧ cone.angle ≤ 360 ∧
      cone.sees .zero .forward target .clear = true ∧
      ¬(target - .zero).length ≤ cone.distance := by
  decide +kernel

end VisionCone
end Guardhouse
