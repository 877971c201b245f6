import Guardhouse.Number.Decimal

/-!
# Shortest decimals

The shortest decimal of a floating-point number is, of the decimals with the fewest digits that
round to the number, the one nearest to it; where two are equally near, a `Tie` decides. `shortest?`
finds it by exact arithmetic: it writes the
number and the bounds of what rounds to it as naturals over one denominator, and tries the two
neighbours of the number on ever finer decimal grids.
-/

namespace Guardhouse

open Float.Model (Format UnpackedFloat)

/-- Which of two neighbouring decimals is taken for a number half way between them. -/
inductive Tie where
  /-- The one whose last digit is even. -/
  | toEven
  /-- The one that is further away from zero. -/
  | awayFromZero
  deriving DecidableEq, Repr

namespace Shortest

/-- A positive number `value / scale` with the interval `[low, high] / scale` of what rounds to it;
the ends belong to it if `closed`. -/
structure Interval where
  low : Nat
  value : Nat
  high : Nat
  scale : Nat
  closed : Bool

namespace Interval

/-- The interval of the number `mantissa * 2 ^ exponent` of `format`: half way to either neighbour.
The lower neighbour of a power of two is twice as near, unless it is the least normal number. -/
def ofNumber (format : Format) (mantissa : Nat) (exponent : Int) : Interval :=
  let narrowBelow := mantissa == 1 <<< format.mantissaBitsWithoutImplicit
    && format.minExponent < exponent
  let up := 1 <<< exponent.toNat
  { low := (4 * mantissa - (if narrowBelow then 1 else 2)) * up
    value := 4 * mantissa * up
    high := (4 * mantissa + 2) * up
    scale := 4 <<< (-exponent).toNat
    closed := mantissa % 2 == 0 }

/-- Whether `n / d` belongs to the interval. -/
def contains (i : Interval) (n d : Nat) : Bool :=
  if i.closed then i.low * d ≤ n * i.scale && n * i.scale ≤ i.high * d
  else i.low * d < n * i.scale && n * i.scale < i.high * d

end Interval

/-- The number of decimal digits of a natural; zero has none. -/
def digitCount (n : Nat) : Nat := if n = 0 then 0 else (Nat.toDigits 10 n).length

/-- The power of ten at the leading digit of the positive number `n / d`. -/
def leadingPower (n d : Nat) : Int :=
  if d ≤ n then (digitCount (n / d) : Int) - 1 else -(digitCount ((d - 1) / n) : Int)

/-- The best decimal of the interval among the multiples of `10 ^ power`, if there is one: of the
two neighbours of the value the nearer one that the interval contains. -/
def onGrid (tie : Tie) (i : Interval) (power : Int) : Option Nat :=
  let up := Nat.pow 10 power.toNat
  let down := Nat.pow 10 (-power).toNat
  let n := i.value * down
  let d := i.scale * up
  let below := n / d
  let above := below + 1
  let good (k : Nat) := i.contains (k * up) down
  match good below && below != 0, good above with
  | true, true =>
    match compare (2 * (n % d)) d with
    | .lt => some below
    | .gt => some above
    | .eq => some (if tie == .toEven && below % 2 == 0 then below else above)
  | true, false => some below
  | false, true => some above
  | false, false => none

/-- Tries grids from the power `power` downwards. -/
def search (tie : Tie) (i : Interval) : (fuel : Nat) → (power : Int) → Option (Nat × Int)
  | 0, _ => none
  | fuel + 1, power =>
    match onGrid tie i power with
    | some digits => some (digits, power)
    | none => search tie i fuel (power - 1)

/-- The shortest decimal of the positive number `mantissa * 2 ^ exponent` of `format`. Seventeen
digits are enough for every number of either precision. -/
def ofPositive (tie : Tie) (format : Format) (mantissa : Nat) (exponent : Int) :
    Option (Nat × Int) :=
  let i := Interval.ofNumber format mantissa exponent
  search tie i 18 (leadingPower i.value i.scale)

end Shortest

/-- The shortest decimal of a finite number; none for infinities and what is not a number. -/
def shortest? (tie : Tie) (format : Format) : UnpackedFloat → Option Decimal
  | .zero sign => some ⟨sign == .negative, 0, 0⟩
  | .finite sign mantissa exponent _ =>
    (Shortest.ofPositive tie format mantissa exponent).map fun (digits, power) =>
      ⟨sign == .negative, digits, power⟩
  | _ => none

end Guardhouse
