import Guardhouse.Number.Decimal

/-!
# JSON tokens

`Token.scan?` cuts JSON text into brackets, separators, words, numbers and strings. A number is the
longest run of characters that numbers are made of and has to follow their grammar as a whole; a
string has its escapes resolved.
-/

namespace Guardhouse
namespace Json

/-- A token of JSON text. -/
inductive Token where
  | openBrace
  | closeBrace
  | openBracket
  | closeBracket
  | comma
  | colon
  /-- `null`, `true` or `false`. -/
  | word (name : String)
  | number (literal : String)
  /-- A string; none where its escapes name half of a surrogate pair. -/
  | text (content : Option String)
  deriving DecidableEq, Repr

namespace Token

/-! ### Numbers -/

/-- The characters of numbers. -/
def isNumeric (c : Char) : Bool :=
  c.isDigit || c == '-' || c == '+' || c == '.' || c == 'e' || c == 'E'

/-- Whether digits are a whole part: not empty, and without a zero before other digits. -/
def isWholePart : List Char → Bool
  | [] => false
  | ['0'] => true
  | c :: _ => c != '0'

/-- Whether a text is the exponent of a number, or nothing. -/
def isExponent (cs : List Char) : Bool := (Decimal.exponent? cs).isSome

/-- Whether a text is a number after its sign: a whole part, perhaps a point with digits, perhaps an
exponent. -/
def isUnsignedNumber (cs : List Char) : Bool :=
  let (whole, rest) := Decimal.spanDigits cs
  isWholePart whole && match rest with
    | '.' :: rest =>
      let (places, rest) := Decimal.spanDigits rest
      !places.isEmpty && isExponent rest
    | rest => isExponent rest

/-- Whether a text is a number. -/
def isNumber : List Char → Bool
  | '-' :: rest => isUnsignedNumber rest
  | cs => isUnsignedNumber cs

/-! ### Strings -/

/-- The value of a hexadecimal digit. -/
def hexValue? (c : Char) : Option Nat :=
  if c.isDigit then some (c.toNat - '0'.toNat)
  else if 'a' ≤ c && c ≤ 'f' then some (c.toNat - 'a'.toNat + 10)
  else if 'A' ≤ c && c ≤ 'F' then some (c.toNat - 'A'.toNat + 10)
  else none

/-- The value of four hexadecimal digits. -/
def hexValue4? (a b c d : Char) : Option Nat := do
  return (((← hexValue? a) * 16 + (← hexValue? b)) * 16 + (← hexValue? c)) * 16 + (← hexValue? d)

/-- The character that a one-letter escape stands for. -/
def escaped? (c : Char) : Option Char :=
  match c with
  | '"' => some '"'
  | '\\' => some '\\'
  | '/' => some '/'
  | 'b' => some '\x08'
  | 'f' => some '\x0c'
  | 'n' => some '\n'
  | 'r' => some '\r'
  | 't' => some '\t'
  | _ => none

/-- The code numbers of a string up to its closing quote, and what follows the quote. An escape of
four digits gives its number, which may be half of a surrogate pair. -/
def scanString? : List Char → Option (List Nat × List Char)
  | [] => none
  | '"' :: rest => some ([], rest)
  | '\\' :: 'u' :: a :: b :: c :: d :: rest => do
    let code ← hexValue4? a b c d
    let (codes, rest) ← scanString? rest
    return (code :: codes, rest)
  | '\\' :: c :: rest => do
    let e ← escaped? c
    let (codes, rest) ← scanString? rest
    return (e.toNat :: codes, rest)
  | c :: rest => do
    if c.toNat < 0x20 || c == '\\' then none
    else
      let (codes, rest) ← scanString? rest
      return (c.toNat :: codes, rest)

/-- Whether a code number is the first half of a surrogate pair. -/
def isHighHalf (n : Nat) : Bool := 0xD800 ≤ n && n < 0xDC00

/-- Whether a code number is the second half of a surrogate pair. -/
def isLowHalf (n : Nat) : Bool := 0xDC00 ≤ n && n < 0xE000

/-- The characters that code numbers stand for, a surrogate pair for one; none for a lone half. -/
def characters? : List Nat → Option (List Char)
  | [] => some []
  | high :: rest =>
    if isHighHalf high then
      match rest with
      | low :: rest =>
        if isLowHalf low then
          (characters? rest).map
            (Char.ofNat (0x10000 + (high - 0xD800) * 0x400 + (low - 0xDC00)) :: ·)
        else none
      | [] => none
    else if isLowHalf high then none
    else (characters? rest).map (Char.ofNat high :: ·)

/-! ### Text -/

/-- Blanks between tokens. -/
def isBlank (c : Char) : Bool := c == ' ' || c == '\t' || c == '\n' || c == '\r'

/-- The token at the head of a text that begins with neither blank nor end, and what follows. -/
def next? (c : Char) (rest : List Char) : Option (Token × List Char) :=
  match c with
  | '{' => some (.openBrace, rest)
  | '}' => some (.closeBrace, rest)
  | '[' => some (.openBracket, rest)
  | ']' => some (.closeBracket, rest)
  | ',' => some (.comma, rest)
  | ':' => some (.colon, rest)
  | '"' => (scanString? rest).map fun (codes, rest) =>
      (.text ((characters? codes).map String.ofList), rest)
  | c =>
    if isNumeric c then
      let literal := (c :: rest).takeWhile isNumeric
      if isNumber literal then
        some (.number (String.ofList literal), (c :: rest).dropWhile isNumeric)
      else none
    else
      let name := String.ofList ((c :: rest).takeWhile Char.isAlpha)
      if name == "null" || name == "true" || name == "false" then
        some (.word name, (c :: rest).dropWhile Char.isAlpha)
      else none

/-- Tokens to the end of the text; each step takes one character at least. -/
def scanFuel? : (fuel : Nat) → List Char → Option (List Token)
  | _, [] => some []
  | 0, _ :: _ => none
  | fuel + 1, c :: rest =>
    if isBlank c then scanFuel? fuel rest
    else do
      let (token, rest) ← next? c rest
      return token :: (← scanFuel? fuel rest)

/-- The tokens of a whole text. -/
def scan? (s : String) : Option (List Token) :=
  let cs := s.toList
  scanFuel? cs.length cs

end Token
end Json
end Guardhouse
