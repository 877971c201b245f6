import Guardhouse.Number.Rounding

/-!
# Decimal numbers

A `Decimal` is a sign, a string of digits read as a natural, and a power of ten. `Decimal.read?` is
the grammar of plain decimal text: an optional sign, digits with at most one point among or around
them, and an optional exponent. `toSingle` and `toDouble` round a decimal once to the nearest number
of the precision.
-/

namespace Guardhouse

open Float.Model (Format UnpackedFloat)

/-- The number `± digits * 10 ^ exponent`. -/
structure Decimal where
  negative : Bool
  digits : Nat
  exponent : Int
  deriving DecidableEq, Repr

namespace Decimal

/-! ### Rounding -/

/-- The value of a decimal, rounded to `format`. -/
def toFormat (d : Decimal) (format : Format) : UnpackedFloat :=
  let size := UnpackedFloat.ofScientific format d.digits d.exponent
  if d.negative then size.neg else size

/-- The nearest single. -/
def toSingle (d : Decimal) : Float32 := .ofModel (.pack (d.toFormat .binary32))

/-- The nearest double. -/
def toDouble (d : Decimal) : Float := .ofModel (.pack (d.toFormat .binary64))

/-! ### Reading -/

/-- The value of a digit. -/
def digitValue (c : Char) : Nat := c.toNat - '0'.toNat

/-- The natural that a string of digits writes; `start` stands for the digits before it. -/
def naturalFrom (start : Nat) (cs : List Char) : Nat :=
  cs.foldl (fun n c => 10 * n + digitValue c) start

/-- The natural that a non-empty string of digits writes. -/
def natural? (cs : List Char) : Option Nat :=
  if cs.isEmpty || cs.any (fun c => !c.isDigit) then none else some (naturalFrom 0 cs)

/-- The leading digits of a text, and what follows them. -/
def spanDigits (cs : List Char) : List Char × List Char :=
  (cs.takeWhile Char.isDigit, cs.dropWhile Char.isDigit)

/-- Whether a text begins with a minus sign, and what follows its sign, if it has one. -/
def takeSign : List Char → Bool × List Char
  | '-' :: rest => (true, rest)
  | '+' :: rest => (false, rest)
  | rest => (false, rest)

/-- The exponent that a whole text writes; no text at all is the exponent zero. -/
def exponent? : List Char → Option Int
  | [] => some 0
  | c :: rest =>
    if c == 'e' || c == 'E' then
      let (negative, digits) := takeSign rest
      (natural? digits).map fun n => if negative then -(n : Int) else n
    else none

/-- The decimal that a whole text writes, after its sign. -/
def unsigned? (negative : Bool) (cs : List Char) : Option Decimal :=
  let (whole, rest) := spanDigits cs
  let (places, rest) := match rest with
    | '.' :: rest => spanDigits rest
    | rest => ([], rest)
  if whole.isEmpty && places.isEmpty then none
  else (exponent? rest).map fun e =>
    ⟨negative, naturalFrom (naturalFrom 0 whole) places, e - places.length⟩

/-- The decimal that a whole text writes. -/
def read? (cs : List Char) : Option Decimal :=
  let (negative, cs) := takeSign cs
  unsigned? negative cs

/-- The single that a whole text writes: a decimal, rounded once, or in any case of its letters an
infinity or what is not a number. -/
def single? (s : String) : Option Float32 :=
  let (negative, magnitude) := takeSign s.toList
  let word := String.ofList (magnitude.map Char.toLower)
  if word == "inf" || word == "infinity" then
    some (.ofBits (if negative then 0xFF800000 else 0x7F800000))
  else if word == "nan" then some (.ofBits 0x7FC00000)
  else (read? s.toList).map toSingle

end Decimal

end Guardhouse
