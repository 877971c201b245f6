import Guardhouse.Yaml.Property

/-!
# Reading YAML tokens

`Token.ofText?` cuts a text into tokens. On its way it keeps the indentations that blocks began at,
the flow collections that are open, and for each of these the place where the last possible key
began; a colon turns such a place into a key. A key of this kind ends on its own line, within 1024
bytes, and where a block would go on with one, it must come.
-/

namespace Guardhouse
namespace Yaml

/-- A place where a key may have begun. -/
structure Candidate where
  line : Nat
  column : Nat
  offset : Nat
  /-- The number of the token that would be the key. -/
  index : Nat
  /-- Whether the block has to go on with a key here. -/
  required : Bool
  deriving DecidableEq, Repr

/-- Whether a key that began at the place would have had to end before `g`. -/
def Candidate.expired (g : Glyph) (c : Candidate) : Bool :=
  c.line < g.line || c.offset + 1024 < g.offset

/-- A text that is being cut into tokens. -/
structure Lexer where
  text : List Glyph
  /-- The columns of the open blocks, the innermost first. -/
  indents : List Nat := []
  /-- Whether a key may begin here. -/
  keyAllowed : Bool := true
  /-- The possible key at this level. -/
  candidate : Option Candidate := none
  /-- The possible keys around each open flow collection, the innermost first. -/
  outer : List (Option Candidate) := []
  /-- The tokens so far, each with those that were put before it later. -/
  tokens : Array (List Token) := #[]

namespace Lexer

/-- Whether a flow collection is open. -/
def flow (s : Lexer) : Bool := !s.outer.isEmpty

/-- The least column that is deeper than the innermost block. -/
def deeper (s : Lexer) : Nat := (s.indents.head?.map (· + 1)).getD 0

/-- Adds a token. -/
def push (s : Lexer) (t : Token) : Lexer := { s with tokens := s.tokens.push [t] }

/-- Adds a token of one character. -/
def take (s : Lexer) (t : Token) : Lexer := { s.push t with text := s.text.tail }

/-- Adds a token that was read up to `rest`. -/
def takeTo (s : Lexer) (t : Token) (rest : List Glyph) : Lexer := { s.push t with text := rest }

def allowKey (s : Lexer) (allowed : Bool) : Lexer := { s with keyAllowed := allowed }

/-! ### Blocks -/

/-- Opens a block at a column, if it is deeper than the innermost one. -/
def openBlock (s : Lexer) (column : Nat) (opening : Token) : Lexer :=
  if !s.flow && s.deeper ≤ column then { s.push opening with indents := column :: s.indents } else s

/-- Closes the innermost blocks of a list whose columns fulfil `p`. -/
def closeBlocks (p : Nat → Bool) (s : Lexer) : Lexer :=
  { s with
    indents := s.indents.dropWhile p
    tokens := s.tokens ++ (s.indents.takeWhile p).map fun _ => [Token.blockEnd] }

/-- Closes the blocks that are deeper than a column, unless a flow collection is open. -/
def closeDeeper (s : Lexer) (column : Nat) : Lexer :=
  if s.flow then s else s.closeBlocks (column < ·)

/-- Closes all blocks, unless a flow collection is open. -/
def closeAll (s : Lexer) : Lexer := if s.flow then s else s.closeBlocks fun _ => true

/-! ### Possible keys -/

/-- Forgets the possible key at this level, unless it has to be one. -/
def dropCandidate? (s : Lexer) : Option Lexer :=
  if s.candidate.any (·.required) then none else some { s with candidate := none }

/-- Notes that a key may begin at `g` with the next token, if one is allowed here. -/
def noteCandidate? (s : Lexer) (g : Glyph) : Option Lexer :=
  if s.keyAllowed then do
    let s ← s.dropCandidate?
    return { s with
      candidate := some {
        line := g.line
        column := g.column
        offset := g.offset
        index := s.tokens.size
        required := !s.flow && s.indents.head? == some g.column } }
  else some s

/-- Forgets the possible keys that would have had to end before `g`, unless one has to be a key. -/
def expire? (s : Lexer) (g : Glyph) : Option Lexer :=
  if (s.candidate :: s.outer).any (·.any fun c => c.expired g && c.required) then none
  else
    some { s with
      candidate := s.candidate.filter (!·.expired g)
      outer := s.outer.map (·.filter (!·.expired g)) }

/-- Turns the possible key at this level into a key. -/
def resolve (s : Lexer) (c : Candidate) : Lexer :=
  let opens := !s.flow && s.deeper ≤ c.column
  { s with
    indents := if opens then c.column :: s.indents else s.indents
    candidate := none
    tokens := s.tokens.modify c.index fun ts =>
      if opens then .blockMapping :: .key :: ts else .key :: ts }

/-! ### Tokens -/

/-- What follows blanks, comments, line breaks and byte order marks at the beginning of lines. A
line break outside flow collections allows a key; while a key is allowed there, a tab is no blank.
-/
def skipGaps (flow : Bool) : (keyAllowed comment : Bool) → List Glyph → Bool × List Glyph
  | keyAllowed, _, [] => (keyAllowed, [])
  | keyAllowed, comment, g :: rest =>
    if isBreak g.char then skipGaps flow (keyAllowed || !flow) false rest
    else if comment && !isEnd g.char then skipGaps flow keyAllowed true rest
    else if g.char == ' ' || (g.char == '\t' && (flow || !keyAllowed)) then
      skipGaps flow keyAllowed false rest
    else if g.char == '#' then skipGaps flow keyAllowed true rest
    else if g.column == 0 && g.char == byteOrderMark then skipGaps flow keyAllowed false rest
    else (keyAllowed, g :: rest)

/-- Goes on to the next token. -/
def settle? (s : Lexer) : Option Lexer :=
  let (keyAllowed, text) := skipGaps s.flow s.keyAllowed false s.text
  match text with
  | [] => none
  | g :: _ => do
    let s ← { s with text, keyAllowed }.expire? g
    return s.closeDeeper g.column

/-- The beginning or the end of a document, of three characters. -/
def documentMarker? (s : Lexer) (t : Token) : Option Lexer := do
  let s ← s.closeAll.dropCandidate?
  return (s.allowKey false).takeTo t (s.text.drop 3)

def directive? (s : Lexer) : Option Lexer := do
  let s ← s.closeAll.dropCandidate?
  let (token, rest) ← Yaml.directive? s.text.tail
  return (s.allowKey false).takeTo token rest

/-- The opening bracket of a flow collection. -/
def openFlow? (s : Lexer) (g : Glyph) (t : Token) : Option Lexer := do
  let s ← s.noteCandidate? g
  return { (s.take t).allowKey true with candidate := none, outer := s.candidate :: s.outer }

/-- The closing bracket of a flow collection. -/
def closeFlow? (s : Lexer) (t : Token) : Option Lexer := do
  let s ← s.dropCandidate?
  return { (s.take t).allowKey false with
    candidate := s.outer.headD none
    outer := s.outer.tail }

def comma? (s : Lexer) : Option Lexer := do
  let s ← s.dropCandidate?
  return (s.take .comma).allowKey true

/-- The dash of an item. Outside flow collections it may open a list. -/
def item? (s : Lexer) (g : Glyph) : Option Lexer := do
  if !s.flow && !s.keyAllowed then none
  else
    let s ← (s.openBlock g.column .blockSequence).dropCandidate?
    return (s.take .item).allowKey true

/-- The question mark before a key. Outside flow collections it may open a mapping. -/
def key? (s : Lexer) (g : Glyph) : Option Lexer := do
  if !s.flow && !s.keyAllowed then none
  else
    let s ← (s.openBlock g.column .blockMapping).dropCandidate?
    return (s.take .key).allowKey !s.flow

/-- The colon before a value. -/
def value? (s : Lexer) (g : Glyph) : Option Lexer :=
  match s.candidate with
  | some c => some (((s.resolve c).take .value).allowKey false)
  | none =>
    if !s.flow && !s.keyAllowed then none
    else some (((s.openBlock g.column .blockMapping).take .value).allowKey !s.flow)

/-- A token that may begin a key and is read behind its first character by `read?`. -/
def property? (s : Lexer) (g : Glyph) (read? : List Glyph → Option (Token × List Glyph)) :
    Option Lexer := do
  let s ← s.noteCandidate? g
  let (token, rest) ← read? s.text.tail
  return (s.allowKey false).takeTo token rest

/-- A quoted scalar. -/
def quoted? (s : Lexer) (g : Glyph) : Option Lexer :=
  s.property? g fun text => do
    let (content, rest) ← Yaml.quoted? g.char text
    return (.scalar .quoted (String.ofList content), rest)

/-- A plain scalar. After a line break at its end a key is allowed again. -/
def plain? (s : Lexer) (g : Glyph) : Option Lexer := do
  let s ← s.noteCandidate? g
  let p ← Yaml.plain? s.flow s.deeper s.text
  return (s.allowKey p.crossed).takeTo (.scalar .plain (String.ofList p.content)) p.rest

/-- A block scalar; there is none inside flow collections. -/
def block? (s : Lexer) (style : Style) : Option Lexer := do
  if s.flow then none
  else
    let s ← s.dropCandidate?
    let (content, rest) ←
      Yaml.block? (style == .folded) (s.indents.headD 0) s.deeper s.text.tail
    return (s.allowKey true).takeTo (.scalar style (String.ofList content)) rest

/-- The token at the head of the text, which is neither a gap nor the end. -/
def token? (s : Lexer) (g : Glyph) (rest : List Glyph) : Option Lexer :=
  if g.column == 0 && g.char == '%' then s.directive?
  else if atMarker '-' s.text then s.documentMarker? .documentStart
  else if atMarker '.' s.text then s.documentMarker? .documentEnd
  else match g.char with
    | '[' => s.openFlow? g .openBracket
    | ']' => s.closeFlow? .closeBracket
    | '{' => s.openFlow? g .openBrace
    | '}' => s.closeFlow? .closeBrace
    | ',' => s.comma?
    | '*' => s.property? g fun text => (name? text).map fun (name, rest) => (.reference name, rest)
    | '&' => s.property? g fun text => (name? text).map fun (name, rest) => (.anchor name, rest)
    | '!' => s.property? g (tag? s.flow)
    | '\'' => s.quoted? g
    | '"' => s.quoted? g
    | '|' => s.block? .literal
    | '>' => s.block? .folded
    | '-' => if atGap rest then s.item? g else s.plain? g
    | '?' => if s.flow || atGap rest then s.key? g else s.plain? g
    | ':' => if s.flow || atGap rest then s.value? g else s.plain? g
    | c => if c == '\t' || c == '%' || c == '@' || c == '\x60' then none else s.plain? g

/-- The tokens to the end of the text. Every round takes a character. -/
def run? : (fuel : Nat) → Lexer → Option (List Token)
  | 0, _ => none
  | fuel + 1, s => do
    let s ← s.settle?
    match s.text with
    | [] => none
    | g :: rest =>
      if isEnd g.char then
        let s ← s.closeAll.dropCandidate?
        return s.tokens.toList.flatten
      else run? fuel (← s.token? g rest)

end Lexer

/-- The tokens of a text. -/
def Token.ofText? (s : String) : Option (List Token) := do
  let text ← glyphs? s
  Lexer.run? (text.length + 1) { text }

end Yaml
end Guardhouse
