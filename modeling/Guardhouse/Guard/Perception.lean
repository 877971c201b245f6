import Guardhouse.Vec3

/-!
# Perception

What a guard knows about its target. Every question may use up an observation, so an answer comes
with the perception after it; a perception whose answers do not depend on how often they were asked
for returns itself.

The reference perception is a vision cone that looks out from a pose which the host keeps up to
date.
-/

namespace Guardhouse

/-- What a guard can ask about its target. -/
class Perception (P : Type) where
  /-- Whether the target is perceived now. -/
  canPerceiveTarget : P → Bool × P
  /-- Where the target is, if there is one at all. -/
  targetPosition : P → Option Vec3 × P

/-- Whether nothing blocks the view from one point to another. -/
abbrev Sight := Vec3 → Vec3 → Bool

namespace Sight

/-- Nothing ever blocks the view. -/
def clear : Sight := fun _ _ => true

/-- Everything blocks the view. -/
def blocked : Sight := fun _ _ => false

end Sight

/-- Visibility by distance, and by angle in the ground plane. -/
structure VisionCone where
  distance : Float32
  /-- The full opening angle in degrees. -/
  angle : Float32
  deriving DecidableEq

namespace VisionCone

/-- Whether `target` is seen from `eye`: not too far, not too far off the direction `forward`, and
with nothing in between. A target straight above or below is within every angle. -/
def sees (cone : VisionCone) (eye forward target : Vec3) (sight : Sight) : Bool :=
  let offset := target - eye
  if cone.distance < offset.length then false
  else if offset.flat.normalized?.isSome &&
      cone.angle * 0.5 < forward.flat.angleDegrees offset.flat then false
  else sight eye target

end VisionCone

/-- A vision cone with the pose that it looks out from and the target, if there is one. -/
structure ConePerception where
  cone : VisionCone
  sight : Sight := .clear
  eye : Vec3 := .zero
  forward : Vec3 := .forward
  target : Option Vec3 := none

namespace ConePerception

/-- The cone in another pose. -/
def withPose (p : ConePerception) (eye forward : Vec3) : ConePerception := { p with eye, forward }

/-- The cone with another target, or none. -/
def withTarget (p : ConePerception) (target : Option Vec3) : ConePerception := { p with target }

/-- Whether there is a target and it is seen. -/
def seesTarget (p : ConePerception) : Bool :=
  match p.target with
  | some target => p.cone.sees p.eye p.forward target p.sight
  | none => false

instance : Perception ConePerception where
  canPerceiveTarget p := (p.seesTarget, p)
  targetPosition p := (p.target, p)

end ConePerception

/-- A perception that is told what to answer. Of the answers to whether the target is perceived,
each question uses up one; the last answer stays. -/
structure ScriptedPerception where
  answers : List Bool := [false]
  target : Option Vec3 := none
  /-- How often it was asked whether the target is perceived. -/
  asked : Nat := 0
  deriving DecidableEq

namespace ScriptedPerception

/-- The answer to the next question. -/
def answer (p : ScriptedPerception) : Bool :=
  (p.answers[min p.asked (p.answers.length - 1)]?).getD false

instance : Perception ScriptedPerception where
  canPerceiveTarget p := (p.answer, { p with asked := p.asked + 1 })
  targetPosition p := (p.target, p)

end ScriptedPerception

end Guardhouse
