import Guardhouse.Number.Decimal
import Guardhouse.Yaml.Scalar
import Guardhouse.Yaml.Token

/-!
# Names, tags and directives

What stands before a node or before a document: the names of anchors and aliases, tags, and the
directives for the version and for handles of tags. Each reader starts behind the first mark.
-/

namespace Guardhouse
namespace Yaml

/-! ### Names -/

/-- The characters that may follow the name of an anchor or an alias. -/
def mayFollowName (c : Char) : Bool :=
  isGap c || c == '?' || c == ':' || c == ',' || c == ']' || c == '}' || c == '%' || c == '@' ||
    c == '\x60'

/-- The name of an anchor or an alias. -/
def name? (text : List Glyph) : Option (String × List Glyph) :=
  let (name, rest) := span isNameChar text
  if name.isEmpty || !mayFollowName (headChar rest) then none else some (String.ofList name, rest)

/-! ### Tags -/

/-- The characters of addresses; those that separate items are among them only in a verbatim tag or
a directive. -/
def isAddressChar (full : Bool) (c : Char) : Bool :=
  isNameChar c || ";/?:@&=+$.!~*'()".contains c || (full && (c == ',' || c == '[' || c == ']'))

/-- A byte as a part of an address: the character of its number. -/
def byteChar (byte : Nat) : Char := Char.ofNat byte

/-- The byte that a percent sign and two hexadecimal digits write. -/
def escapedByte? : List Glyph → Option (Nat × List Glyph)
  | p :: a :: b :: rest => do
    if p.char != '%' then none
    else return (← hexNumber? [a.char, b.char], rest)
  | _ => none

/-- The number of bytes of a character that begins with a byte. -/
def encodedLength? (byte : Nat) : Option Nat :=
  if byte < 0x80 then some 1
  else if byte / 0x20 == 0x06 then some 2
  else if byte / 0x10 == 0x0E then some 3
  else if byte / 0x08 == 0x1E then some 4
  else none

/-- The later bytes of a character, each written by a percent sign. -/
def trailingBytes? : Nat → List Glyph → Option (List Char × List Glyph)
  | 0, text => some ([], text)
  | n + 1, text => do
    let (byte, rest) ← escapedByte? text
    if byte / 0x40 != 0x02 then none
    else
      let (bytes, rest) ← trailingBytes? n rest
      return (byteChar byte :: bytes, rest)

/-- The bytes of an address and what follows it. Every round takes a character. -/
def addressFrom? (full : Bool) : (fuel : Nat) → List Glyph → Option (List Char × List Glyph)
  | 0, _ => none
  | fuel + 1, text =>
    let c := headChar text
    if c == '%' then do
      let (byte, rest) ← escapedByte? text
      let (bytes, rest) ← trailingBytes? ((← encodedLength? byte) - 1) rest
      let (more, rest) ← addressFrom? full fuel rest
      return (byteChar byte :: (bytes ++ more), rest)
    else if isAddressChar full c then do
      let (more, rest) ← addressFrom? full fuel text.tail
      return (c :: more, rest)
    else some ([], text)

/-- The address that bytes write. A byte zero ends it, whatever follows. -/
def addressText (bytes : List Char) : String := String.ofList (bytes.takeWhile (· != '\x00'))

/-- An address, which may be empty, and what follows it. -/
def address? (full : Bool) (text : List Glyph) : Option (String × List Glyph) := do
  let (bytes, rest) ← addressFrom? full (text.length + 1) text
  return (addressText bytes, rest)

/-- An address of one byte at least, and what follows it. -/
def someAddress? (full : Bool) (text : List Glyph) : Option (String × List Glyph) := do
  let (bytes, rest) ← addressFrom? full (text.length + 1) text
  if bytes.isEmpty then none else some (addressText bytes, rest)

/-- A handle of tags, behind its first exclamation mark, if a second one ends it. -/
def namedHandle? (text : List Glyph) : Option (String × List Glyph) :=
  let (name, rest) := span isNameChar text
  if headChar rest == '!' then some (String.ofList ('!' :: name ++ ['!']), rest.tail) else none

/-- A tag, behind its first exclamation mark, before the end of it is checked. -/
def openTag? (text : List Glyph) : Option (Token × List Glyph) :=
  if headChar text == '<' then do
    let (address, rest) ← someAddress? true text.tail
    if headChar rest == '>' then return (.tag none address, rest.tail) else none
  else match namedHandle? text with
    | some (handle, rest) => do
      let (address, rest) ← someAddress? false rest
      return (.tag (some handle) address, rest)
    | none => do
      let (address, rest) ← address? false text
      return (if address.isEmpty then .tag none "!" else .tag (some "!") address, rest)

/-- A tag, behind its first exclamation mark. It ends at a gap, and inside a flow collection also at
a comma. -/
def tag? (flow : Bool) (text : List Glyph) : Option (Token × List Glyph) := do
  let (tag, rest) ← openTag? text
  if atGap rest || (flow && headChar rest == ',') then some (tag, rest) else none

/-! ### Directives -/

/-- A number of at most nine digits. -/
def shortNumber? (text : List Glyph) : Option (Nat × List Glyph) := do
  let (digits, rest) := span Char.isDigit text
  if 9 < digits.length then none else return (← Decimal.natural? digits, rest)

/-- The version directive, behind its name. -/
def version? (text : List Glyph) : Option (Token × List Glyph) := do
  let (major, rest) ← shortNumber? (skipBlanks text)
  if headChar rest != '.' then none
  else
    let (minor, rest) ← shortNumber? rest.tail
    return (.version major minor, rest)

/-- The directive that defines a handle, behind its name. -/
def handle? (text : List Glyph) : Option (Token × List Glyph) := do
  let text := skipBlanks text
  if headChar text != '!' then none
  else
    let (handle, rest) := (namedHandle? text.tail).getD ("!", text.tail)
    if !isBlank (headChar rest) then none
    else
      let (meaning, rest) ← someAddress? true (skipBlanks rest)
      if atGap rest then some (.handle handle meaning, rest) else none

/-- A directive, behind its percent sign, up to the next line. -/
def directive? (text : List Glyph) : Option (Token × List Glyph) := do
  let (name, rest) := span isNameChar text
  if !atGap rest then none
  else
    let (token, rest) ← match String.ofList name with
      | "YAML" => version? rest
      | "TAG" => handle? rest
      | _ => none
    return (token, ← endLine? rest)

end Yaml
end Guardhouse
