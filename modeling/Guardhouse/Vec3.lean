import Guardhouse.Number.Circular
import Guardhouse.Json.Record
import Guardhouse.Json.Writer

/-!
# Points and directions

Three singles: a point of the world or a direction. The `y` axis points up; yaw is measured around
it, zero facing along `z` and growing towards `x`. Every operation is carried out in single
precision, step by step.
-/

namespace Guardhouse

/-- A point or a direction. -/
structure Vec3 where
  x : Float32 := 0
  y : Float32 := 0
  z : Float32 := 0
  deriving DecidableEq

namespace Vec3

def zero : Vec3 := ⟨0, 0, 0⟩

def up : Vec3 := ⟨0, 1, 0⟩

/-- The direction of yaw zero. -/
def forward : Vec3 := ⟨0, 0, 1⟩

/-- Equality of numbers: zeros of either sign are equal, and nothing equals what is not a number. -/
instance : BEq Vec3 where
  beq a b := a.x == b.x && a.y == b.y && a.z == b.z

/-! ### Arithmetic -/

instance : Add Vec3 where
  add a b := ⟨a.x + b.x, a.y + b.y, a.z + b.z⟩

instance : Sub Vec3 where
  sub a b := ⟨a.x - b.x, a.y - b.y, a.z - b.z⟩

instance : Neg Vec3 where
  neg a := ⟨-a.x, -a.y, -a.z⟩

/-- A vector scaled by a factor. -/
def scale (a : Vec3) (s : Float32) : Vec3 := ⟨a.x * s, a.y * s, a.z * s⟩

def dot (a b : Vec3) : Float32 := a.x * b.x + a.y * b.y + a.z * b.z

def lengthSquared (a : Vec3) : Float32 := a.dot a

def length (a : Vec3) : Float32 := a.lengthSquared.sqrt

/-- The distance between two points. -/
def distance (a b : Vec3) : Float32 := (b - a).length

/-! ### Directions -/

/-- The distance from one to the next single: what is no longer counts as nothing. -/
def epsilon : Float32 := .ofBits 0x34000000

/-- The unit vector of the same direction; none for a vector that is (almost) zero or whose length
is not finite. -/
def normalized? (a : Vec3) : Option Vec3 :=
  let length := a.length
  if length ≤ epsilon || !length.isFinite then none else some (a.scale (1 / length))

/-- The part of a vector in the ground plane. -/
def flat (a : Vec3) : Vec3 := ⟨a.x, 0, a.z⟩

/-- The angle between two directions in degrees; zero if either has no direction. -/
def angleDegrees (a b : Vec3) : Float32 :=
  match a.normalized?, b.normalized? with
  | some a, some b => Circular.toDegrees (Circular.arccos (clamp (-1) 1 (a.dot b)))
  | _, _ => 0

/-- The direction in the ground plane of a yaw in degrees. -/
def ofYawDegrees (yaw : Float32) : Vec3 :=
  let (sine, cosine) := Circular.sinCos (Circular.toRadians yaw)
  ⟨sine, 0, cosine⟩

/-- The yaw in degrees of the part of a direction in the ground plane. -/
def yawDegrees (a : Vec3) : Float32 := Circular.toDegrees (Circular.angle a.x a.z)

/-- The point at most `step` away from `a` towards `target`; the target itself once it is that
near. -/
def moveTowards (a target : Vec3) (step : Float32) : Vec3 :=
  let delta := target - a
  let distance := delta.length
  if distance ≤ step || distance ≤ epsilon then target else a + delta.scale (step / distance)

/-! ### Saved form -/

/-- The saved form of a vector. -/
def toJson (a : Vec3) : Json :=
  .object [("x", .ofSingle a.x), ("y", .ofSingle a.y), ("z", .ofSingle a.z)]

/-- Reads the saved form of a vector. -/
def ofJson? (json : Json) : Option Vec3 := do
  match ← json.record? ["x", "y", "z"] with
  | [x, y, z] => return ⟨← x.single?, ← y.single?, ← z.single?⟩
  | _ => none

/-- Reads the saved text of a list of vectors. -/
def parseList? (s : String) : Option (List Vec3) := do (← Json.read? s).listOf? ofJson?

end Vec3

end Guardhouse
