/-!
# YAML tokens

The tokens of YAML text. Indentation shows as tokens that open and close blocks, and a key that is
only known to be one by the colon after it has a token before it, so a document is read off its
tokens without looking at the text again.
-/

namespace Guardhouse
namespace Yaml

/-- How a scalar is written. -/
inductive Style where
  /-- Without any marks. -/
  | plain
  /-- Between quotes of either kind. -/
  | quoted
  /-- As a block that keeps its line breaks. -/
  | literal
  /-- As a block whose lines are joined. -/
  | folded
  deriving DecidableEq, Repr

/-- A token of YAML text. -/
inductive Token where
  /-- The version directive. -/
  | version (major minor : Nat)
  /-- The directive that defines what a handle of tags stands for. -/
  | handle (name meaning : String)
  | documentStart
  | documentEnd
  /-- A deeper indentation begins a list. -/
  | blockSequence
  /-- A deeper indentation begins a mapping. -/
  | blockMapping
  /-- The indentation that began a list or a mapping ends. -/
  | blockEnd
  | openBracket
  | closeBracket
  | openBrace
  | closeBrace
  | comma
  /-- The dash before an item of a list. -/
  | item
  /-- A key follows. -/
  | key
  /-- The value of a key follows. -/
  | value
  /-- An alias: the name of an anchor. -/
  | reference (name : String)
  | anchor (name : String)
  /-- A tag: an address behind a handle. A verbatim tag has no handle. -/
  | tag (handle : Option String) (address : String)
  | scalar (style : Style) (content : String)
  deriving DecidableEq, Repr

end Yaml
end Guardhouse
