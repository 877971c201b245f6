import Guardhouse.Yaml.Glyph

/-!
# YAML scalars

How scalars are written: plain, between single or double quotes, or as blocks of lines. Each reader
starts behind what told the kind of the scalar, and gives the content with what follows.

Between two words of a scalar stands a gap. Blanks on one line are kept; a line break becomes one
blank, and every break after it stays a break.
-/

namespace Guardhouse
namespace Yaml

/-! ### Gaps -/

/-- What stands between two words of a scalar. -/
inductive Gap where
  /-- Blanks on one line. -/
  | inLine (blanks : List Char)
  /-- Line breaks: the first one, unless it was escaped, and those after it. -/
  | acrossLines (first : Option Char) (more : List Char)

namespace Gap

/-- Whether a gap has a line break in it. -/
def crosses : Gap → Bool
  | inLine _ => false
  | acrossLines _ _ => true

/-- What a gap contributes to the content of a scalar. -/
def fold : Gap → List Char
  | inLine blanks => blanks
  | acrossLines (some '\n') [] => [' ']
  | acrossLines (some '\n') more => more
  | acrossLines first more => first.toList ++ more

/-- A gap with one more line break. -/
def addBreak (c : Char) : Gap → Gap
  | inLine _ => acrossLines (some c) []
  | acrossLines first more => acrossLines first (more ++ [c])

/-- A gap with one more blank; at the beginning of a line it does not count. -/
def addBlank (c : Char) : Gap → Gap
  | inLine blanks => inLine (blanks ++ [c])
  | gap => gap

/-- The rest of a gap. There must be no tab before column `limit` of a later line. -/
def read? (limit : Nat) (gap : Gap) : List Glyph → Option (Gap × List Glyph)
  | [] => none
  | g :: rest =>
    if isBlank g.char then
      if gap.crosses && g.char == '\t' && g.column < limit then none
      else read? limit (gap.addBlank g.char) rest
    else if isBreak g.char then read? limit (gap.addBreak g.char) rest
    else some (gap, g :: rest)

end Gap

/-! ### Plain scalars -/

/-- Whether a character is a bracket or separator of flow collections. -/
def isFlowIndicator (c : Char) : Bool := c == ',' || c == '[' || c == ']' || c == '{' || c == '}'

/-- The word of a plain scalar at the head of a text. It ends at a gap, at a colon before a gap, and
inside a flow collection at its brackets and separators, which must not follow a colon there. -/
def plainWord? (flow : Bool) : List Glyph → Option (List Char × List Glyph)
  | [] => none
  | g :: rest =>
    let next := headChar rest
    if isGap g.char then some ([], g :: rest)
    else if flow && g.char == ':' && (isFlowIndicator next || next == '?') then none
    else if (g.char == ':' && isGap next) || (flow && isFlowIndicator g.char) then
      some ([], g :: rest)
    else do
      let (word, rest) ← plainWord? flow rest
      return (g.char :: word, rest)

/-- A plain scalar: its content, whether it was ended by a line break, and what follows. -/
structure Plain where
  content : List Char := []
  crossed : Bool
  rest : List Glyph

/-- A plain scalar from the gap before one of its words on. Every round takes a word. -/
def plainFrom? (flow : Bool) (limit : Nat) : (fuel : Nat) → Gap → List Glyph → Option Plain
  | 0, _, _ => none
  | fuel + 1, gap, text =>
    if atDocumentMarker text || headChar text == '#' then
      some { crossed := gap.crosses, rest := text }
    else do
      let (word, text) ← plainWord? flow text
      if word.isEmpty then return { crossed := gap.crosses, rest := text }
      let content := gap.fold ++ word
      if isEnd (headChar text) || !atGap text then
        return { content, crossed := false, rest := text }
      let (gap, text) ← Gap.read? limit (.inLine []) text
      if !flow && (text.head?.any (·.column < limit)) then
        return { content, crossed := gap.crosses, rest := text }
      let more ← plainFrom? flow limit fuel gap text
      return { more with content := content ++ more.content }

/-- The plain scalar at the head of a text, whose later lines begin at column `limit` or behind it.
-/
def plain? (flow : Bool) (limit : Nat) (text : List Glyph) : Option Plain :=
  plainFrom? flow limit text.length (.inLine []) text

/-! ### Quoted scalars -/

/-- The character that a one-letter escape stands for. -/
def escaped? (c : Char) : Option Char :=
  match c with
  | '0' => some '\x00'
  | 'a' => some '\x07'
  | 'b' => some '\x08'
  | 't' => some '\t'
  | '\t' => some '\t'
  | 'n' => some '\n'
  | 'v' => some '\x0b'
  | 'f' => some '\x0c'
  | 'r' => some '\r'
  | 'e' => some '\x1b'
  | ' ' => some ' '
  | '"' => some '"'
  | '/' => some '/'
  | '\\' => some '\\'
  | 'N' => some '\u0085'
  | '_' => some '\u00a0'
  | 'L' => some '\u2028'
  | 'P' => some '\u2029'
  | _ => none

/-- The number of hexadecimal digits after a letter that announces a character by its code. -/
def escapeWidth? (c : Char) : Option Nat :=
  match c with
  | 'x' => some 2
  | 'u' => some 4
  | 'U' => some 8
  | _ => none

/-- The value of a hexadecimal digit. -/
def hexDigit? (c : Char) : Option Nat :=
  if c.isDigit then some (c.toNat - '0'.toNat)
  else if 'a' ≤ c && c ≤ 'f' then some (c.toNat - 'a'.toNat + 10)
  else if 'A' ≤ c && c ≤ 'F' then some (c.toNat - 'A'.toNat + 10)
  else none

/-- The number that hexadecimal digits write. -/
def hexNumber? (cs : List Char) : Option Nat :=
  cs.foldlM (fun n c => (hexDigit? c).map (16 * n + ·)) 0

/-- The character with a code. -/
def charOf? (n : Nat) : Option Char := if n.isValidChar then some (Char.ofNat n) else none

/-- The words of a scalar between single quotes: up to a gap or the closing quote. Two quotes stand
for one. -/
def singleWord : List Glyph → List Char × List Glyph
  | [] => ([], [])
  | g :: rest =>
    if isGap g.char then ([], g :: rest)
    else if g.char == '\'' then
      match rest with
      | d :: rest =>
        if d.char == '\'' then
          let (word, rest) := singleWord rest
          ('\'' :: word, rest)
        else ([], g :: d :: rest)
      | [] => ([], [g])
    else
      let (word, rest) := singleWord rest
      (g.char :: word, rest)

/-- A word between quotes with the gap that it begins and what follows. -/
abbrev QuotedWord := List Char × Gap × List Glyph

/-- Puts a character before a word. -/
def QuotedWord.push (c : Char) (w : QuotedWord) : QuotedWord := (c :: w.1, w.2)

/-- The words of a scalar between double quotes: up to a gap, an escaped line break or the closing
quote. -/
def doubleWord? : (fuel : Nat) → List Glyph → Option QuotedWord
  | 0, _ => none
  | fuel + 1, text =>
    match text with
    | [] => none
    | g :: rest =>
      if isGap g.char || g.char == '"' then some ([], .inLine [], text)
      else if g.char == '\\' then
        match rest with
        | [] => none
        | e :: rest =>
          if isBreak e.char then some ([], .acrossLines none [], rest)
          else match escapeWidth? e.char with
            | some width => do
              let c ← charOf? (← hexNumber? ((rest.take width).map (·.char)))
              return (← doubleWord? fuel (rest.drop width)).push c
            | none => do
              let c ← escaped? e.char
              return (← doubleWord? fuel rest).push c
      else do return (← doubleWord? fuel rest).push g.char

/-- The words of a scalar between quotes. -/
def quotedWord? (quote : Char) (text : List Glyph) : Option QuotedWord :=
  if quote == '"' then doubleWord? text.length text
  else
    let (word, text) := singleWord text
    some (word, .inLine [], text)

/-- A scalar between quotes from one of its words on. Every round takes a gap. -/
def quotedFrom? (quote : Char) : (fuel : Nat) → List Glyph → Option (List Char × List Glyph)
  | 0, _ => none
  | fuel + 1, text =>
    if atDocumentMarker text || isEnd (headChar text) then none
    else do
      let (word, gap, text) ← quotedWord? quote text
      if headChar text == quote then return (word, text.tail)
      let (gap, text) ← gap.read? 0 text
      let (more, rest) ← quotedFrom? quote fuel text
      return (word ++ gap.fold ++ more, rest)

/-- The rest of a scalar behind its opening quote. -/
def quoted? (quote : Char) (text : List Glyph) : Option (List Char × List Glyph) :=
  quotedFrom? quote (text.length + 1) text

/-! ### Block scalars -/

/-- What becomes of the line breaks at the end of a block. -/
inductive Chomping where
  /-- One stays. -/
  | clip
  /-- None stays. -/
  | strip
  /-- All stay. -/
  | keep
  deriving DecidableEq, Repr

/-- The marks of a block scalar: in either order, what becomes of the line breaks at its end, and by
how much it is indented. -/
def blockMarks? (text : List Glyph) : Option (Chomping × Option Nat × List Glyph) := do
  let chomping? (text : List Glyph) : Option (Chomping × List Glyph) :=
    if headChar text == '+' then some (.keep, text.tail)
    else if headChar text == '-' then some (.strip, text.tail)
    else none
  let digit? (text : List Glyph) : Option (Option Nat × List Glyph) :=
    let c := headChar text
    if c == '0' then none
    else if c.isDigit then some (some (c.toNat - '0'.toNat), text.tail)
    else some (none, text)
  match chomping? text with
  | some (chomping, text) =>
    let (width, text) ← digit? text
    return (chomping, width, text)
  | none =>
    let (width, text) ← digit? text
    match width, chomping? text with
    | some width, some (chomping, text) => return (chomping, some width, text)
    | width, _ => return (.clip, width, text)

/-- The empty lines at the head of a text with the deepest column that their blanks reach. Blanks
count as indentation before column `limit`, or everywhere if there is no limit yet; no tab may stand
there. -/
def emptyLines? (limit : Option Nat) :
    (deepest : Nat) → List Glyph → Option (List Char × Nat × List Glyph)
  | _, [] => none
  | deepest, g :: rest =>
    let indenting := limit.all (g.column < ·)
    if indenting && g.char == ' ' then emptyLines? limit deepest rest
    else if indenting && g.char == '\t' then none
    else
      let deepest := max deepest g.column
      if isBreak g.char then do
        let (breaks, deepest, rest) ← emptyLines? limit deepest rest
        return (g.char :: breaks, deepest, rest)
      else some ([], deepest, g :: rest)

/-- What stands between two lines of a block: the break of the first, and those of the empty lines
after it. -/
structure Joint where
  first : List Char := []
  more : List Char := []
  /-- Whether the first line began with a blank. -/
  indented : Bool := false

/-- What a joint contributes before a line that begins with a blank or does not. A folded block has
a blank for a single break between lines that do not. -/
def Joint.fold (folded indented : Bool) (j : Joint) : List Char :=
  if folded && j.first == ['\n'] && !j.indented && !indented then
    if j.more.isEmpty then [' '] else j.more
  else j.first ++ j.more

/-- What a joint contributes at the end of a block. -/
def Joint.finish (j : Joint) : Chomping → List Char
  | .clip => j.first
  | .strip => []
  | .keep => j.first ++ j.more

/-- The lines of a block at column `indent`. Every round takes a line. -/
def blockLines? (folded : Bool) (chomping : Chomping) (indent : Nat) :
    (fuel : Nat) → Joint → List Glyph → Option (List Char × List Glyph)
  | 0, _, _ => none
  | fuel + 1, joint, text =>
    match text with
    | [] => none
    | g :: _ =>
      if g.column == indent && !isEnd g.char then do
        let indented := isBlank g.char
        let (line, rest) := span (!isLineEnd ·) text
        let (first, rest) :=
          if isBreak (headChar rest) then ([headChar rest], rest.tail) else ([], rest)
        let (more, _, rest) ← emptyLines? (some indent) 0 rest
        let (lines, rest) ← blockLines? folded chomping indent fuel { first, more, indented } rest
        return (joint.fold folded indented ++ line ++ lines, rest)
      else some (joint.finish chomping, text)

/-- The rest of a block scalar behind its first mark. Its lines are indented at least to column
`limit`, or by a given width from `margin`. -/
def block? (folded : Bool) (margin limit : Nat) (text : List Glyph) :
    Option (List Char × List Glyph) := do
  let (chomping, width, text) ← blockMarks? text
  let text ← endLine? text
  let given := width.map (margin + ·)
  let (more, deepest, text) ← emptyLines? given 0 text
  let indent := given.getD (max (max deepest limit) 1)
  blockLines? folded chomping indent (text.length + 1) { more } text

end Yaml
end Guardhouse
