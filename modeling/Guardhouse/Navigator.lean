import Guardhouse.Vec3

/-!
# Navigators

A navigator is the body of an agent as its decisions see it: it has a position and perhaps a
destination, and it is told where to go, how fast, and how to turn. Decisions never move the body;
the host does, between frames.
-/

namespace Guardhouse

/-- What decisions ask of a body, and what they may tell it. A body that has no speed of its own or
cannot turn ignores `setSpeedMultiplier` and `rotateBy`. -/
class Navigator (N : Type) where
  /-- Where the body is. -/
  position : N → Vec3
  /-- Where the body was last sent. -/
  destination : N → Option Vec3
  /-- Whether the body is near enough to its destination, or has none. -/
  hasReachedDestination : N → Bool
  /-- Where the body faces in the ground plane. -/
  forward : N → Vec3 := fun _ => Vec3.forward
  /-- Replaces the destination. -/
  setDestination : N → Vec3 → N
  /-- Scales the speed of the body. -/
  setSpeedMultiplier : N → Float32 → N := fun n _ => n
  /-- Turns the body on the spot, in degrees. -/
  rotateBy : N → Float32 → N := fun n _ => n

end Guardhouse
