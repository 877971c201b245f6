import Guardhouse.Yaml.Document
import Guardhouse.Yaml.Token.Lexer

/-!
# Reading YAML documents

`Document.read?` reads a text as one document, by the grammar of nodes over its tokens. A node that
may be left out is empty if the next token cannot begin one. Every rule of the grammar takes a token
within four steps, so the number of tokens bounds the reading.
-/

namespace Guardhouse
namespace Yaml

/-! ### Names of anchors -/

/-- The names of anchors so far, each with its last number. -/
structure Names where
  ids : List (String × Nat) := []

namespace Names

/-- Gives the next anchor its number. -/
def define (names : Names) (name : String) : Nat × Names :=
  let id := names.ids.length
  (id, ⟨(name, id) :: names.ids.filter (·.1 != name)⟩)

/-- The number that an alias of a name means. -/
def find? (names : Names) (name : String) : Option Nat := names.ids.lookup name

end Names

/-! ### Properties -/

/-- What may stand before a node: an anchor, and a tag with its handle, if that has one. -/
structure Properties where
  anchor : Option String := none
  tag : Option (Option String × String) := none

/-- The properties at the head of the tokens: an anchor and a tag at most, in either order. -/
def Properties.take : List Token → Properties × List Token
  | .anchor name :: .tag handle address :: rest => (⟨some name, some (handle, address)⟩, rest)
  | .tag handle address :: .anchor name :: rest => (⟨some name, some (handle, address)⟩, rest)
  | .anchor name :: rest => (⟨some name, none⟩, rest)
  | .tag handle address :: rest => (⟨none, some (handle, address)⟩, rest)
  | rest => ({}, rest)

/-- What the handles of tags stand for, by their names; the first of a name counts. -/
abbrev Handles := List (String × String)

/-- The handles that every document has unless it gives them another meaning. -/
def Handles.default : Handles := [("!", "!"), ("!!", standardTag "")]

/-- The full address of a tag, if its handle is known. -/
def Handles.resolve? (handles : Handles) : Option String × String → Option String
  | (none, address) => some address
  | (some handle, address) => (handles.lookup handle).map (· ++ address)

/-- Where a node stands. -/
inductive Place where
  /-- In a flow collection. -/
  | flow
  /-- In a block. -/
  | block
  /-- In a block mapping, where the items of a list need no deeper indentation. -/
  | blockEntry
  deriving DecidableEq, Repr

/-! ### Nodes -/

/-- A part of a document that was read. -/
structure Part (α : Type) where
  value : α
  /-- The names of anchors so far. -/
  names : Names
  /-- The tokens that follow. -/
  rest : List Token

/-- The tokens that end an entry of a block mapping. -/
def endsEntry (t : Token) : Bool := t == .key || t == .value || t == .blockEnd

/-- The tokens that end an entry of a flow collection with closing bracket `closing`. -/
def endsFlow (closing t : Token) : Bool := t == .comma || t == closing

/-- Whether the tokens begin with one that fulfils `p`. -/
def begins (p : Token → Bool) (tokens : List Token) : Bool := tokens.head?.any p

mutual

/-- A node at the head of the tokens, where the handles of tags have the given meanings. -/
def node? (handles : Handles) (place : Place) :
    (fuel : Nat) → Names → List Token → Option (Part Node)
  | 0, _, _ => none
  | _ + 1, names, .reference name :: rest => do
    return ⟨.reference (← names.find? name), names, rest⟩
  | fuel + 1, names, tokens => do
    let (properties, rest) := Properties.take tokens
    let tag ← match properties.tag with
      | some tag => do pure (some (← handles.resolve? tag))
      | none => pure none
    match properties.anchor with
    | some name =>
      let (id, names) := names.define name
      let ⟨node, names, rest⟩ ← content? handles place true tag fuel names rest
      return ⟨.anchored id node, names, rest⟩
    | none => content? handles place tag.isSome tag fuel names rest

/-- A node behind its properties. Where there are any, the node may be left out. -/
def content? (handles : Handles) (place : Place) (optional : Bool) (tag : Option String) :
    (fuel : Nat) → Names → List Token → Option (Part Node)
  | 0, _, _ => none
  | fuel + 1, names, tokens =>
    match tokens with
    | .scalar style content :: rest => some ⟨.scalar style tag content, names, rest⟩
    | .openBracket :: rest => do
      let ⟨items, names, rest⟩ ← flowItems? handles true fuel names rest
      return ⟨.sequence items, names, rest⟩
    | .openBrace :: rest => do
      let ⟨entries, names, rest⟩ ← flowEntries? handles true fuel names rest
      return ⟨.mapping entries, names, rest⟩
    | token :: rest =>
      if token == .blockSequence && place != .flow then do
        let ⟨items, names, rest⟩ ← blockItems? handles fuel names rest
        return ⟨.sequence items, names, rest⟩
      else if token == .blockMapping && place != .flow then do
        let ⟨entries, names, rest⟩ ← blockEntries? handles fuel names rest
        return ⟨.mapping entries, names, rest⟩
      else if token == .item && place == .blockEntry then do
        let ⟨items, names, rest⟩ ← looseItems? handles fuel names tokens
        return ⟨.sequence items, names, rest⟩
      else if optional then some ⟨.empty, names, tokens⟩
      else none
    | [] => if optional then some ⟨.empty, names, []⟩ else none

/-- A node, or none at all before a token that fulfils `p`. -/
def nodeUnless? (handles : Handles) (p : Token → Bool) (place : Place) :
    (fuel : Nat) → Names → List Token → Option (Part Node)
  | 0, _, _ => none
  | fuel + 1, names, tokens =>
    if begins p tokens then some ⟨.empty, names, tokens⟩
    else node? handles place fuel names tokens

/-- The items of a list that is a block of its own, up to its end. -/
def blockItems? (handles : Handles) :
    (fuel : Nat) → Names → List Token → Option (Part (List Node))
  | 0, _, _ => none
  | _ + 1, names, .blockEnd :: rest => some ⟨[], names, rest⟩
  | fuel + 1, names, .item :: rest => do
    let ⟨item, names, rest⟩ ←
      nodeUnless? handles (fun t => t == .item || t == .blockEnd) .block fuel names rest
    let ⟨items, names, rest⟩ ← blockItems? handles fuel names rest
    return ⟨item :: items, names, rest⟩
  | _ + 1, _, _ => none

/-- The items of a list that is indented no deeper than the mapping around it. -/
def looseItems? (handles : Handles) :
    (fuel : Nat) → Names → List Token → Option (Part (List Node))
  | 0, _, _ => none
  | fuel + 1, names, .item :: rest => do
    let ⟨item, names, rest⟩ ←
      nodeUnless? handles (fun t => t == .item || endsEntry t) .block fuel names rest
    let ⟨items, names, rest⟩ ← looseItems? handles fuel names rest
    return ⟨item :: items, names, rest⟩
  | _ + 1, names, tokens => some ⟨[], names, tokens⟩

/-- The entries of a mapping that is a block, up to its end. -/
def blockEntries? (handles : Handles) :
    (fuel : Nat) → Names → List Token → Option (Part (List (Node × Node)))
  | 0, _, _ => none
  | _ + 1, names, .blockEnd :: rest => some ⟨[], names, rest⟩
  | fuel + 1, names, .key :: rest => do
    let ⟨key, names, rest⟩ ← nodeUnless? handles endsEntry .blockEntry fuel names rest
    let ⟨value, names, rest⟩ ← valueAfter? handles endsEntry .blockEntry fuel names rest
    let ⟨entries, names, rest⟩ ← blockEntries? handles fuel names rest
    return ⟨(key, value) :: entries, names, rest⟩
  | _ + 1, _, _ => none

/-- The value of an entry whose key has been read. Without a colon it is left out, and before a
token that fulfils `p` as well. -/
def valueAfter? (handles : Handles) (p : Token → Bool) (place : Place) :
    (fuel : Nat) → Names → List Token → Option (Part Node)
  | 0, _, _ => none
  | fuel + 1, names, .value :: rest => nodeUnless? handles p place fuel names rest
  | _ + 1, names, tokens => some ⟨.empty, names, tokens⟩

/-- The items of a list between brackets. An item may be an entry; it makes a mapping of its own. -/
def flowItems? (handles : Handles) (first : Bool) :
    (fuel : Nat) → Names → List Token → Option (Part (List Node))
  | 0, _, _ => none
  | _ + 1, names, .closeBracket :: rest => some ⟨[], names, rest⟩
  | fuel + 1, names, .comma :: rest =>
    if first then none
    else if begins (· == .closeBracket) rest then some ⟨[], names, rest.tail⟩
    else flowItem? handles fuel names rest
  | fuel + 1, names, tokens => if first then flowItem? handles fuel names tokens else none

/-- One item of a list between brackets and those after it. -/
def flowItem? (handles : Handles) :
    (fuel : Nat) → Names → List Token → Option (Part (List Node))
  | 0, _, _ => none
  | fuel + 1, names, .key :: rest => do
    let ⟨key, names, rest⟩ ←
      if begins (fun t => t == .value || endsFlow .closeBracket t) rest then
        some ⟨.empty, names, rest.tail⟩
      else node? handles .flow fuel names rest
    let ⟨value, names, rest⟩ ← valueAfter? handles (endsFlow .closeBracket) .flow fuel names rest
    let ⟨items, names, rest⟩ ← flowItems? handles false fuel names rest
    return ⟨.mapping [(key, value)] :: items, names, rest⟩
  | fuel + 1, names, tokens => do
    let ⟨item, names, rest⟩ ← node? handles .flow fuel names tokens
    let ⟨items, names, rest⟩ ← flowItems? handles false fuel names rest
    return ⟨item :: items, names, rest⟩

/-- The entries of a mapping between braces. -/
def flowEntries? (handles : Handles) (first : Bool) :
    (fuel : Nat) → Names → List Token → Option (Part (List (Node × Node)))
  | 0, _, _ => none
  | _ + 1, names, .closeBrace :: rest => some ⟨[], names, rest⟩
  | fuel + 1, names, .comma :: rest =>
    if first then none
    else if begins (· == .closeBrace) rest then some ⟨[], names, rest.tail⟩
    else flowEntry? handles fuel names rest
  | fuel + 1, names, tokens => if first then flowEntry? handles fuel names tokens else none

/-- One entry of a mapping between braces and those after it. An entry may be a key alone. -/
def flowEntry? (handles : Handles) :
    (fuel : Nat) → Names → List Token → Option (Part (List (Node × Node)))
  | 0, _, _ => none
  | fuel + 1, names, .key :: rest => do
    let ⟨key, names, rest⟩ ←
      nodeUnless? handles (fun t => t == .value || endsFlow .closeBrace t) .flow fuel names rest
    let ⟨value, names, rest⟩ ← valueAfter? handles (endsFlow .closeBrace) .flow fuel names rest
    let ⟨entries, names, rest⟩ ← flowEntries? handles false fuel names rest
    return ⟨(key, value) :: entries, names, rest⟩
  | fuel + 1, names, tokens => do
    let ⟨key, names, rest⟩ ← node? handles .flow fuel names tokens
    let ⟨entries, names, rest⟩ ← flowEntries? handles false fuel names rest
    return ⟨(key, .empty) :: entries, names, rest⟩

end

/-! ### Documents -/

/-- What the directives before a document say: whether the version was given, and the handles. -/
structure Directives where
  versioned : Bool := false
  handles : Handles := []

/-- The directives at the head of the tokens. The version is given at most once, and each handle. -/
def Directives.take? (d : Directives) : List Token → Option (Directives × List Token)
  | .version major minor :: rest =>
    if d.versioned || major != 1 || (minor != 1 && minor != 2) then none
    else take? { d with versioned := true } rest
  | .handle name meaning :: rest =>
    if (d.handles.lookup name).isSome then none
    else take? { d with handles := (name, meaning) :: d.handles } rest
  | rest => some (d, rest)

/-- Whether a token begins a document that says so. -/
def beginsDocument : Token → Bool
  | .version _ _ => true
  | .handle _ _ => true
  | .documentStart => true
  | _ => false

/-- The root of the document at the head of the tokens, and what follows it. -/
def root? (fuel : Nat) (tokens : List Token) : Option (Part Node) := do
  if tokens.isEmpty then return ⟨.empty, {}, []⟩
  else if begins beginsDocument tokens then
    let (directives, rest) ← Directives.take? {} tokens
    if !begins (· == .documentStart) rest then none
    else if rest.tail.isEmpty ||
        begins (fun t => beginsDocument t || t == .documentEnd) rest.tail then
      return ⟨.empty, {}, rest.tail⟩
    else node? (directives.handles ++ .default) .block fuel {} rest.tail
  else node? .default .block fuel {} tokens

/-- The only document of a text. A text without any content is an empty document. -/
def Document.read? (s : String) : Option Document := do
  let tokens ← Token.ofText? s
  let ⟨root, _, rest⟩ ← root? (4 * tokens.length + 4) tokens
  if rest.all (· == .documentEnd) then some (.ofRoot root) else none

end Yaml
end Guardhouse
