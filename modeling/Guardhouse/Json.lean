/-!
# JSON values

The values of JSON text. A number keeps the text it is written with, so that a reader decides what
it means to it; the fields of an object keep their order and may repeat.
-/

namespace Guardhouse

/-- A JSON value. -/
inductive Json where
  | null
  | bool (value : Bool)
  /-- A number, as it is written. -/
  | number (literal : String)
  | text (content : String)
  /-- A string, or an object with a field name, in which an escape names one half of a surrogate
  pair without the other. It is no value, but may stand where a value is skipped. -/
  | broken
  | array (items : List Json)
  | object (fields : List (String × Json))

namespace Json

/-- A natural as a number. -/
def ofNat (n : Nat) : Json := .number (toString n)

/-- A word as a number. -/
def ofWord (n : UInt64) : Json := .ofNat n.toNat

end Json

end Guardhouse
