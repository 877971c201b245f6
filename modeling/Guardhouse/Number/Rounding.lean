/-!
# Nearest floating-point numbers

Numbers of the library are IEEE single and double precision. This module rounds exact quantities to
them: `nearest` takes a ratio of naturals to the closest number of a format, a tie going to the even
neighbour, and `widen` and `narrow` carry numbers from one precision to the other.

Widening loses nothing, so `narrow (widen x) = x` for every single `x`; narrowing rounds once.
-/

namespace Guardhouse

open Float.Model (Format UnpackedFloat)

/-! ### Rounding exact values -/

/-- The number of `format` nearest to `numerator / denominator`, with the given sign. Nothing over
nothing, and any other division by zero, is not a number. -/
def nearest (format : Format) (sign : UnpackedFloat.Sign) (numerator denominator : Nat) :
    UnpackedFloat :=
  if hd : 0 < denominator then
    if hn : 0 < numerator then
      .div format (.finite sign numerator 0 hn) (.finite .positive denominator 0 hd)
    else .zero sign
  else .notANumber

/-- The value of a number, rounded again to `format`. -/
def reround (format : Format) : UnpackedFloat → UnpackedFloat
  | .finite sign mantissa exponent _ => .round format sign mantissa exponent
  | x => x

/-- The single nearest to a ratio. -/
def nearestSingle (sign : UnpackedFloat.Sign) (numerator denominator : Nat) : Float32 :=
  .ofModel (.pack (nearest .binary32 sign numerator denominator))

/-! ### Between the precisions -/

/-- A single as a double of the same value. -/
def widen (x : Float32) : Float := .ofModel (.pack (reround .binary64 x.toModel.unpack))

/-- The single nearest to a double; what is too large becomes infinite. -/
def narrow (x : Float) : Float32 := .ofModel (.pack (reround .binary32 x.toModel.unpack))

/-- The double nearest to an integer. -/
def ofInteger (n : Int) : Float := .ofModel (.pack (.ofInt .binary64 n))

/-! ### Order and sign -/

/-- The larger of `x` and zero; zero also for what is not a number. -/
def atLeastZero (x : Float32) : Float32 := if 0 < x then x else 0

/-- `x` moved into `[low, high]`; what is not a number stays so. -/
def clamp (low high x : Float32) : Float32 :=
  if x < low then low else if high < x then high else x

/-- Whether the sign bit is set, as it is for `-0`. -/
def signBit (x : Float32) : Bool := x.toBits >>> 31 == 1

/-- The size of `size` under the sign of `sign`. -/
def withSignOf (size sign : Float32) : Float32 :=
  if signBit sign then -size.abs else size.abs

/-! ### Remainders -/

/-- The exact remainder of `x` by the positive number `period`, with the sign of `x`. -/
def remainder (x : Float32) (period : Nat) : Float32 :=
  match x.toModel.unpack with
  | .finite sign mantissa exponent _ =>
    let up := mantissa <<< exponent.toNat
    let down := 1 <<< (-exponent).toNat
    nearestSingle sign (up % (period * down)) down
  | .zero _ => x
  | _ => .ofModel (.pack .notANumber)

/-- An angle in degrees brought into one turn. A tiny negative angle may round up to the full
turn. -/
def wrapTurn (degrees : Float32) : Float32 :=
  let rest := remainder degrees 360
  if rest < 0 then rest + 360 else rest

end Guardhouse
