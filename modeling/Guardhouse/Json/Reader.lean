import Guardhouse.Json
import Guardhouse.Json.Token

/-!
# Reading JSON

`Json.read?` reads a whole text as one value, by the grammar of values over its tokens. Every rule
of the grammar takes a token before it goes on, so the number of tokens bounds the reading.
-/

namespace Guardhouse
namespace Json

/-- The object with the given fields; it is broken if the name of one is. -/
def ofFields (fields : List (Option String × Json)) : Json :=
  match fields.mapM fun (name, value) => name.map (·, value) with
  | some fields => .object fields
  | none => .broken

mutual

/-- A value at the head of the tokens, and the tokens after it. -/
def value? : (fuel : Nat) → List Token → Option (Json × List Token)
  | 0, _ => none
  | fuel + 1, tokens =>
    match tokens with
    | .word "null" :: rest => some (.null, rest)
    | .word "true" :: rest => some (.bool true, rest)
    | .word "false" :: rest => some (.bool false, rest)
    | .number literal :: rest => some (.number literal, rest)
    | .text (some content) :: rest => some (.text content, rest)
    | .text none :: rest => some (.broken, rest)
    | .openBracket :: .closeBracket :: rest => some (.array [], rest)
    | .openBracket :: rest => do
      let (items, rest) ← items? fuel rest
      return (.array items, rest)
    | .openBrace :: .closeBrace :: rest => some (.object [], rest)
    | .openBrace :: rest => do
      let (fields, rest) ← fields? fuel rest
      return (ofFields fields, rest)
    | _ => none

/-- One item or more, separated by commas, up to the closing bracket. -/
def items? : (fuel : Nat) → List Token → Option (List Json × List Token)
  | 0, _ => none
  | fuel + 1, tokens => do
    let (item, rest) ← value? fuel tokens
    match rest with
    | .closeBracket :: rest => return ([item], rest)
    | .comma :: rest =>
      let (items, rest) ← items? fuel rest
      return (item :: items, rest)
    | _ => none

/-- One field or more, separated by commas, up to the closing brace. -/
def fields? : (fuel : Nat) → List Token → Option (List (Option String × Json) × List Token)
  | 0, _ => none
  | fuel + 1, tokens =>
    match tokens with
    | .text name :: .colon :: rest => do
      let (value, rest) ← value? fuel rest
      match rest with
      | .closeBrace :: rest => return ([(name, value)], rest)
      | .comma :: rest =>
        let (fields, rest) ← fields? fuel rest
        return ((name, value) :: fields, rest)
      | _ => none
    | _ => none

end

/-- The value that a whole text writes. -/
def read? (s : String) : Option Json := do
  let tokens ← Token.scan? s
  match ← value? (2 * tokens.length + 2) tokens with
  | (value, []) => some value
  | _ => none

end Json
end Guardhouse
