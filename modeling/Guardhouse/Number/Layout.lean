import Guardhouse.Number.Shortest

/-!
# Layouts of decimals

How a number is written out as its shortest decimal. A `Layout` says which powers of ten of the
leading digit are written in plain positional notation, how the exponent of scientific notation
looks outside them, and which way ties go. Plain notation always has a digit after the point;
scientific notation has a point only when more than one digit is to be written.
-/

namespace Guardhouse

/-- The choices of a way to write decimals. -/
structure Layout where
  /-- The least power of the leading digit that is written in plain notation. -/
  lowest : Int
  /-- The greatest power of the leading digit that is written in plain notation. -/
  highest : Int
  /-- Whether a positive exponent carries a plus sign. -/
  plus : Bool
  /-- Which of two equally near shortest decimals is written. -/
  tie : Tie

namespace Layout

/-- Zeros, `n` of them. -/
def zeros (n : Nat) : String := String.ofList (List.replicate n '0')

/-- Digits in plain notation, the last of them at `10 ^ exponent`. -/
def plain (digits : List Char) (exponent : Int) : String :=
  if 0 ≤ exponent then String.ofList digits ++ zeros exponent.toNat ++ ".0"
  else
    let places := (-exponent).toNat
    if places < digits.length then
      let whole := digits.length - places
      String.ofList (digits.take whole) ++ "." ++ String.ofList (digits.drop whole)
    else "0." ++ zeros (places - digits.length) ++ String.ofList digits

/-- Digits in scientific notation, the first of them at `10 ^ power`. -/
def scientific (layout : Layout) (digits : List Char) (power : Int) : String :=
  let point := match digits with
    | first :: second :: rest => String.ofList (first :: '.' :: second :: rest)
    | short => String.ofList short
  let sign := if power < 0 then "-" else if layout.plus then "+" else ""
  point ++ "e" ++ sign ++ toString power.natAbs

/-- A digit string without the zeros at its end, and how many those are. -/
def dropZeros (digits : List Char) : List Char × Nat :=
  let kept := (digits.reverse.dropWhile (· == '0')).reverse
  (kept, digits.length - kept.length)

/-- A decimal written out. -/
def write (layout : Layout) (d : Decimal) : String :=
  let sign := if d.negative then "-" else ""
  if d.digits = 0 then sign ++ "0.0"
  else
    let (digits, dropped) := dropZeros (Nat.toDigits 10 d.digits)
    let exponent := d.exponent + dropped
    let power := exponent + digits.length - 1
    sign ++ if layout.lowest ≤ power && power ≤ layout.highest then plain digits exponent
      else layout.scientific digits power

/-- A finite single written out; none for infinities and what is not a number. -/
def single? (layout : Layout) (x : Float32) : Option String :=
  (shortest? layout.tie .binary32 x.toModel.unpack).map layout.write

/-- A finite double written out; none for infinities and what is not a number. -/
def double? (layout : Layout) (x : Float) : Option String :=
  (shortest? layout.tie .binary64 x.toModel.unpack).map layout.write

end Layout

end Guardhouse
