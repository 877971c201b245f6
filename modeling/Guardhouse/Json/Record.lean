import Guardhouse.Json.Reader

/-!
# Typed views of JSON values

A record is read from an object that has each of its fields once, in any order and among fields of
other names, or from an array of exactly its fields in order. `record?` gives the values of the
fields in the record's own order; the other readers view a single value as a number, a text or a
list.
-/

namespace Guardhouse
namespace Json

/-- The value of a field that an object has exactly once. -/
def field? (fields : List (String × Json)) (name : String) : Option Json :=
  match fields.filter (·.1 == name) with
  | [(_, value)] => some value
  | _ => none

/-- The values of the fields of a record, in the order of their names. -/
def record? (names : List String) : Json → Option (List Json)
  | .object fields => names.mapM (field? fields)
  | .array items => if items.length = names.length then some items else none
  | _ => none

/-- The items of a list, each read by `item?`. -/
def listOf? (item? : Json → Option α) : Json → Option (List α)
  | .array items => items.mapM item?
  | _ => none

/-- A text. -/
def text? : Json → Option String
  | .text content => some content
  | _ => none

/-- The natural that a literal of digits alone writes. -/
def literalNatural? (literal : String) : Option Nat := Decimal.natural? literal.toList

/-- A 64-bit word: digits alone, without sign, point or exponent. -/
def word? : Json → Option UInt64
  | .number literal => do
    let n ← literalNatural? literal
    if n < UInt64.size then some (UInt64.ofNat n) else none
  | _ => none

/-- Whether a literal is a negative integer whose size is a 64-bit word and which is no signed one.
-/
def isBeyondSigned (literal : String) : Bool :=
  match literal.toList with
  | '-' :: digits => (Decimal.natural? digits).any fun n => UInt64.size / 2 < n && n < UInt64.size
  | _ => false

/-- How many digits of a literal are looked at one by one. A number halfway between two singles has
no more of them. -/
def exactDigits : Nat := 113

/-- The decimal that a literal is rounded as. If its integer part has digits that are not looked at,
it counts as a little more than it is, whatever these digits are. -/
def literalDecimal? (literal : List Char) : Option Decimal := do
  let d ← Decimal.read? literal
  let (whole, _) := Decimal.spanDigits (Decimal.takeSign literal).2
  if whole.length ≤ exactDigits then return d
  else return { d with digits := 10 * d.digits + 1, exponent := d.exponent - 1 }

/-- The single that a literal writes. It is rounded once, unless it is an integer that just misses
the signed words, which is rounded to a double first. -/
def literalSingle? (literal : String) : Option Float32 :=
  (literalDecimal? literal.toList).map fun d =>
    if isBeyondSigned literal then narrow d.toDouble else d.toSingle

/-- A single; a number beyond all singles is refused. -/
def single? : Json → Option Float32
  | .number literal => (literalSingle? literal).filter (·.isFinite)
  | _ => none

end Json
end Guardhouse
