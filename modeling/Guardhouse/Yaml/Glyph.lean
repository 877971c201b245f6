/-!
# YAML text

The characters of YAML text, each with the line and the column that it stands in and the number of
bytes before it. A line break is one glyph, however it is written, and a last glyph, which no text
can contain, marks the end; so where a scalar or an indentation ends can be read off the next glyph
alone.
-/

namespace Guardhouse
namespace Yaml

/-- A character and where it stands. -/
structure Glyph where
  char : Char
  line : Nat
  column : Nat
  /-- The number of bytes of the text before it. -/
  offset : Nat
  deriving DecidableEq, Repr

/-! ### Characters -/

/-- The byte order mark. It may begin a line, where it counts as a column. -/
def byteOrderMark : Char := '\uFEFF'

/-- Whether a character may stand in YAML text: neither a control character nor a noncharacter of
the basic plane. -/
def isPrintable (c : Char) : Bool :=
  let n := c.toNat
  n == 0x09 || n == 0x0A || n == 0x0D || (0x20 ≤ n && n ≤ 0x7E) || n == 0x85 ||
    (0xA0 ≤ n && n ≤ 0xFFFD) || 0x10000 ≤ n

/-- A blank or a tab. -/
def isBlank (c : Char) : Bool := c == ' ' || c == '\t'

/-- A line break: the line feed that every ordinary break becomes, or a line or paragraph separator.
-/
def isBreak (c : Char) : Bool := c == '\n' || c == '\u2028' || c == '\u2029'

/-- The end of the text. -/
def isEnd (c : Char) : Bool := c == '\x00'

/-- A line break or the end. -/
def isLineEnd (c : Char) : Bool := isBreak c || isEnd c

/-- A blank, a line break or the end. -/
def isGap (c : Char) : Bool := isBlank c || isLineEnd c

/-- The characters of names: of directives, of anchors and between the marks of tag handles. -/
def isNameChar (c : Char) : Bool := c.isAlphanum || c == '_' || c == '-'

/-! ### Placing -/

/-- Places characters from a line, a column and an offset on, up to the mark of the end. A carriage
return, a line feed, both in this order, and the control character for a next line are one line
feed. -/
def place : List Char → (line column offset : Nat) → List Glyph
  | [], line, column, offset => [⟨'\x00', line, column, offset⟩]
  | '\r' :: '\n' :: rest, line, column, offset =>
    ⟨'\n', line, column, offset⟩ :: place rest (line + 1) 0 (offset + 2)
  | c :: rest, line, column, offset =>
    let next := offset + c.utf8Size
    if c == '\r' || c == '\n' || c == '\u0085' then
      ⟨'\n', line, column, offset⟩ :: place rest (line + 1) 0 next
    else if isBreak c then ⟨c, line, column, offset⟩ :: place rest (line + 1) 0 next
    else ⟨c, line, column, offset⟩ :: place rest line (column + 1) next

/-- The glyphs of a text whose characters may all stand in YAML text. -/
def glyphs? (s : String) : Option (List Glyph) :=
  let cs := s.toList
  if cs.all isPrintable then some (place cs 0 0 0) else none

/-! ### Looking ahead -/

/-- The character at the head of a text. -/
def headChar (text : List Glyph) : Char := (text.head?.map (·.char)).getD '\x00'

/-- Whether a gap is at the head of a text. -/
def atGap (text : List Glyph) : Bool := isGap (headChar text)

/-- Whether a line that begins at the head of a text begins with three times the character `c` and a
gap. -/
def atMarker (c : Char) (text : List Glyph) : Bool :=
  match text with
  | a :: d :: e :: rest =>
    a.column == 0 && a.char == c && d.char == c && e.char == c && atGap rest
  | _ => false

/-- Whether the marker of the beginning or the end of a document is at the head of a text. -/
def atDocumentMarker (text : List Glyph) : Bool := atMarker '-' text || atMarker '.' text

/-- What follows the blanks at the head of a text. -/
def skipBlanks (text : List Glyph) : List Glyph := text.dropWhile (isBlank ·.char)

/-- What follows a line that holds no more than blanks and a comment. -/
def endLine? (text : List Glyph) : Option (List Glyph) :=
  let text := skipBlanks text
  let text := if headChar text == '#' then text.dropWhile (!isLineEnd ·.char) else text
  match text with
  | g :: rest => if isBreak g.char then some rest else if isEnd g.char then some text else none
  | [] => none

/-- The characters at the head of a text that fulfil `p`, and what follows them. -/
def span (p : Char → Bool) (text : List Glyph) : List Char × List Glyph :=
  ((text.takeWhile (p ·.char)).map (·.char), text.dropWhile (p ·.char))

end Yaml
end Guardhouse
