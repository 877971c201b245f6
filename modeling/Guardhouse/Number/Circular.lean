import Guardhouse.Number.Rounding

/-!
# Circular functions

Sine, cosine, arc cosine and the angle of a point, for singles. Each works on exact integers at a
fixed power of two, hundreds of bits wide, and rounds once at the end, so the result is the single
nearest to the true value. Angles are in radians, except in `toDegrees` and `toRadians`.
-/

namespace Guardhouse

open Float.Model (UnpackedFloat)
open Float.Model.UnpackedFloat (Sign)

namespace Circular

/-! ### Scaled integers -/

/-- The number of binary places of the widest scaled integers. -/
def places : Nat := 512

/-- π with `places` binary places. -/
def pi : Nat :=
  0x3243f6a8885a308d313198a2e03707344a4093822299f31d0082efa98ec4e6c89452821e638d01377be5466cf34e90c6cc0ac29b7c97c50dd3f84d5b5b5470917

/-- π with `p` binary places, for `p` up to `places`. -/
def piAt (p : Nat) : Nat := pi >>> (places - p)

/-- The single nearest to a value that lies just above `n / 2 ^ p`. -/
def justAbove (sign : Sign) (n p : Nat) : Float32 := nearestSingle sign (2 * n + 1) (1 <<< (p + 1))

/-- What is not a number. -/
def undefined : Float32 := .ofModel (.pack .notANumber)

/-! ### Sine and cosine -/

/-- `term - term * square / ((k + 1) (k + 2)) + …`, at `places` binary places: each term is the last
one times `square`, over the next two factors of a factorial. -/
def alternating (square : Nat) : (fuel term k : Nat) → Int
  | 0, _, _ => 0
  | fuel + 1, term, k =>
    if term = 0 then 0
    else term - alternating square fuel ((term * square) >>> places / ((k + 1) * (k + 2))) (k + 2)

/-- The sine and the cosine of an angle of at most an eighth of a turn either way. -/
def smallAngle (angle : Int) : Int × Int :=
  let size := angle.natAbs
  let square := (size * size) >>> places
  let sine := alternating square 128 size 1
  (if angle < 0 then -sine else sine, alternating square 128 (1 <<< places) 0)

/-- The sine and the cosine of a positive angle: what is left of it after whole quarter turns
decides their sizes, the number of quarter turns which is which and their signs. -/
def anyAngle (angle : Nat) : Int × Int :=
  let quarter := piAt places / 2
  let turns := (angle + quarter / 2) / quarter
  let (sine, cosine) := smallAngle ((angle : Int) - (turns * quarter : Nat))
  match turns % 4 with
  | 0 => (sine, cosine)
  | 1 => (cosine, -sine)
  | 2 => (-sine, -cosine)
  | _ => (-cosine, sine)

/-- A scaled result as the nearest single. -/
def ofScaled (n : Int) : Float32 :=
  nearestSingle (if n < 0 then .negative else .positive) n.natAbs (1 <<< places)

/-- The sine and the cosine of an angle in radians. -/
def sinCos (x : Float32) : Float32 × Float32 :=
  match x.toModel.unpack with
  | .zero _ => (x, 1)
  | .finite sign mantissa exponent _ =>
    let (sine, cosine) := anyAngle (mantissa <<< (exponent + places).toNat)
    (ofScaled (sign.apply sine), ofScaled cosine)
  | _ => (undefined, undefined)

/-! ### The angle of a point -/

/-- The number of leading binary places that `slope` gets right. -/
def precision : Nat := 128

/-- `term + term * w * 2/3 + term * w * 2/3 * w * 4/5 + …`, where `w` has `precision` binary
places. -/
def growing (w : Nat) : (fuel term k : Nat) → Nat
  | 0, _, _ => 0
  | fuel + 1, term, k =>
    if term = 0 then 0
    else term + growing w fuel ((term * w) >>> precision * (2 * k) / (2 * k + 1)) (k + 1)

/-- The angle whose tangent is `y / x`, for `y` at most `x`, with `p` binary places: the series
whose first term is `x y / (x² + y²)` and whose ratios are below `y² / (x² + y²)`. -/
def slope (y x p : Nat) : Nat :=
  let square := x * x + y * y
  growing ((y * y) <<< precision / square) (2 * precision) ((x * y) <<< p / square) 1

/-- The angle of the point `(x, y)` in the first quarter, with `p` binary places. -/
def quarterAngle (y x p : Nat) : Nat :=
  if y ≤ x then slope y x p else piAt p / 2 - slope x y p

/-- The angle of the point `(±x, y)`, for `y` not zero, under the sign `sign`. Enough binary places
are kept for the smallest angle that the two lengths can give. -/
def angleOf (sign : Sign) (y : Nat) (left : Bool) (x : Nat) : Float32 :=
  let p := precision + (x.log2 - y.log2)
  let angle := quarterAngle y x p
  justAbove sign (if left then piAt p - angle else angle) p

/-- π, or a part of it, as the nearest single. -/
def partOfPi (sign : Sign) (numerator denominator : Nat) : Float32 :=
  nearestSingle sign (pi * numerator) (denominator <<< places)

/-- The angle of the point `(x, y)`, between -π and π; the signs of zeros count. -/
def angle (y x : Float32) : Float32 :=
  match y.toModel.unpack, x.toModel.unpack with
  | .notANumber, _ => undefined
  | _, .notANumber => undefined
  | .infinity s, .infinity .positive => partOfPi s 1 4
  | .infinity s, .infinity .negative => partOfPi s 3 4
  | .infinity s, _ => partOfPi s 1 2
  | .zero s, .zero .positive => .ofModel (.pack (.zero s))
  | .zero s, .finite .positive .. => .ofModel (.pack (.zero s))
  | .zero s, .infinity .positive => .ofModel (.pack (.zero s))
  | .zero s, _ => partOfPi s 1 1
  | .finite s .., .zero _ => partOfPi s 1 2
  | .finite s .., .infinity .positive => .ofModel (.pack (.zero s))
  | .finite s .., .infinity .negative => partOfPi s 1 1
  | .finite s my ey _, .finite t mx ex _ =>
    let low := min ey ex
    angleOf s (my <<< (ey - low).toNat) (t == .negative) (mx <<< (ex - low).toNat)

/-- The angle whose cosine is `x`, between 0 and π: that of a point on the unit circle. -/
def arccos (x : Float32) : Float32 :=
  match x.toModel.unpack with
  | .zero _ => partOfPi .positive 1 2
  | .finite sign mantissa exponent _ =>
    let across := mantissa <<< (exponent + 256).toNat
    let unit := 1 <<< 256
    if unit < across then undefined
    else if unit = across then
      match sign with
      | .positive => 0
      | .negative => partOfPi .positive 1 1
    else
      angleOf .positive (unit * unit - across * across).sqrt (sign == .negative) across
  | _ => undefined

/-! ### Degrees -/

/-- Degrees in a radian, as a single. -/
def degreesPerRadian : Float32 := .ofBits 0x42652ee1

/-- Radians in a degree, as a single. -/
def radiansPerDegree : Float32 := .ofBits 0x3c8efa35

/-- Radians as degrees. -/
def toDegrees (radians : Float32) : Float32 := radians * degreesPerRadian

/-- Degrees as radians. -/
def toRadians (degrees : Float32) : Float32 := degrees * radiansPerDegree

end Circular

end Guardhouse
