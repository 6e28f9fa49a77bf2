import Phrasebook.Json.Token

/-!
JSON values from text. Arrays and objects may be nested `deepest` deep.
-/
namespace Phrasebook.Json

def deepest : Nat := 127

mutual

/-- The value that starts here, with at most `depth` levels of nesting. The first argument bounds
the recursion: two for each token are enough. -/
def readValue : Nat → Nat → List Token → Option (Json × List Token)
  | _ + 1, _, .scalar value :: rest => some (value, rest)
  | _ + 1, _ + 1, .openBracket :: .closeBracket :: rest => some (array [], rest)
  | fuel + 1, depth + 1, .openBracket :: rest =>
    (readItems fuel depth rest).map fun (items, rest) => (array items, rest)
  | _ + 1, _ + 1, .openBrace :: .closeBrace :: rest => some (object [], rest)
  | fuel + 1, depth + 1, .openBrace :: rest =>
    (readFields fuel depth rest).map fun (fields, rest) => (object fields, rest)
  | _, _, _ => none

def readItems : Nat → Nat → List Token → Option (List Json × List Token)
  | 0, _, _ => none
  | fuel + 1, depth, tokens =>
    match readValue fuel depth tokens with
    | some (item, .closeBracket :: rest) => some ([item], rest)
    | some (item, .comma :: rest) =>
      (readItems fuel depth rest).map fun (items, rest) => (item :: items, rest)
    | _ => none

def readFields : Nat → Nat → List Token → Option (List (String × Json) × List Token)
  | fuel + 1, depth, .scalar (.text name) :: .colon :: tokens =>
    match readValue fuel depth tokens with
    | some (value, .closeBrace :: rest) => some ([(name, value)], rest)
    | some (value, .comma :: rest) =>
      (readFields fuel depth rest).map fun (fields, rest) => ((name, value) :: fields, rest)
    | _ => none
  | _, _, _ => none

end

def ofTokens? (tokens : List Token) : Option Json :=
  match readValue (2 * tokens.length + 2) deepest tokens with
  | some (value, []) => some value
  | _ => none

def ofText? (text : String) : Option Json :=
  (Token.readAll text.toList).bind ofTokens?

end Phrasebook.Json
