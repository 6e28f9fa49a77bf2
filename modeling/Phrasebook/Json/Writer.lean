import Phrasebook.Json.Numeral
import Phrasebook.Json.Text

/-!
JSON values as text: compact, or with every item and field on a line of its own.
-/
namespace Phrasebook.Json

def integerText (value : Int) : List Char :=
  Number.signText (value < 0) ++ Nat.toDigits 10 value.natAbs

def scalarText : Json → List Char
  | null => "null".toList
  | bool value => (if value then "true" else "false").toList
  | integer value => integerText value
  | float value => numberText value
  | text value => quoted value
  | array _ => []
  | object _ => []

mutual

def compactChars : Json → List Char
  | array items => '[' :: (compactItems items ++ [']'])
  | object fields => '{' :: (compactFields fields ++ ['}'])
  | json => scalarText json

def compactItems : List Json → List Char
  | [] => []
  | [item] => compactChars item
  | item :: items => compactChars item ++ ',' :: compactItems items

def compactFields : List (String × Json) → List Char
  | [] => []
  | [(name, value)] => quoted name ++ ':' :: compactChars value
  | (name, value) :: fields =>
    quoted name ++ ':' :: (compactChars value ++ ',' :: compactFields fields)

end

def compactText (json : Json) : String :=
  String.ofList (compactChars json)

def lineBreak (indent : List Char) (level : Nat) : List Char :=
  '\n' :: (List.replicate level indent).flatten

mutual

def prettyChars (indent : List Char) (level : Nat) : Json → List Char
  | array [] => ['[', ']']
  | array items =>
    '[' :: (prettyItems indent (level + 1) items ++ lineBreak indent level ++ [']'])
  | object [] => ['{', '}']
  | object fields =>
    '{' :: (prettyFields indent (level + 1) fields ++ lineBreak indent level ++ ['}'])
  | json => scalarText json

def prettyItems (indent : List Char) (level : Nat) : List Json → List Char
  | [] => []
  | [item] => lineBreak indent level ++ prettyChars indent level item
  | item :: items =>
    lineBreak indent level ++ prettyChars indent level item ++
      ',' :: prettyItems indent level items

def prettyFields (indent : List Char) (level : Nat) : List (String × Json) → List Char
  | [] => []
  | [(name, value)] =>
    lineBreak indent level ++ quoted name ++ ':' :: ' ' :: prettyChars indent level value
  | (name, value) :: fields =>
    lineBreak indent level ++ quoted name ++ ':' :: ' ' :: (prettyChars indent level value ++
      ',' :: prettyFields indent level fields)

end

def prettyText (indent : String) (json : Json) : String :=
  String.ofList (prettyChars indent.toList 0 json)

end Phrasebook.Json
