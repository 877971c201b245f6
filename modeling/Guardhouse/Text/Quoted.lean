import Guardhouse.Text.Category

/-!
# Quoted text

Text between double quotes with everything unshown escaped, for descriptions that people read. Quote
and backslash are escaped by a backslash, some controls have letters, and any other unshown
character is written by its number. So is a character that extends the one before it, which cannot
be seen by itself.
-/

namespace Guardhouse
namespace Text

/-- The number of a character, between braces. -/
def numberEscape (c : Char) : List Char :=
  '\\' :: 'u' :: '\x7b' :: Nat.toDigits 16 c.toNat ++ ['\x7d']

/-- A character as it stands between quotes. -/
def escape (c : Char) : List Char :=
  match c with
  | '"' => ['\\', '"']
  | '\\' => ['\\', '\\']
  | '\n' => ['\\', 'n']
  | '\r' => ['\\', 'r']
  | '\t' => ['\\', 't']
  | '\x00' => ['\\', '0']
  | c => if isExtending c || isUnshown c then numberEscape c else [c]

/-- A text between quotes. -/
def quoted (s : String) : String := String.ofList ('"' :: s.toList.flatMap escape ++ ['"'])

end Text
end Guardhouse
