import Phrasebook.Json.Numeral
import Phrasebook.Json.Text

/-!
The tokens of a JSON text: brackets, separators, and the values without parts.
-/
namespace Phrasebook.Json

inductive Token where
  | openBrace
  | closeBrace
  | openBracket
  | closeBracket
  | colon
  | comma
  | scalar (value : Json)

namespace Token

def isSpace (char : Char) : Bool :=
  char == ' ' || char == '\n' || char == '\t' || char == '\r'

def isNumeralChar (char : Char) : Bool :=
  char.isDigit || char == '-' || char == '+' || char == '.' || char == 'e' || char == 'E'

def punctuation? : Char → Option Token
  | '{' => some openBrace
  | '}' => some closeBrace
  | '[' => some openBracket
  | ']' => some closeBracket
  | ':' => some colon
  | ',' => some comma
  | _ => none

def ofWord? (word : List Char) : Option Token :=
  if word = "null".toList then some (scalar .null)
  else if word = "true".toList then some (scalar (.bool true))
  else if word = "false".toList then some (scalar (.bool false))
  else none

/-- The token that starts with a character. Words and numerals end only where a character follows
that cannot be part of one. -/
def read (char : Char) (rest : List Char) : Option (Token × List Char) :=
  match punctuation? char with
  | some token => some (token, rest)
  | none =>
    if char = '"' then
      (readChars rest).map fun (content, rest) =>
        (scalar (.text (String.ofList content)), rest)
    else if char.isDigit || char == '-' then
      (ofNumeral? (char :: rest.takeWhile isNumeralChar)).map fun json =>
        (scalar json, rest.dropWhile isNumeralChar)
    else
      (ofWord? (char :: rest.takeWhile Char.isAlpha)).map fun token =>
        (token, rest.dropWhile Char.isAlpha)

theorem length_read {char : Char} {rest after : List Char} {token : Token}
    (h : read char rest = some (token, after)) : after.length ≤ rest.length := by
  unfold read at h
  split at h
  · cases h
    exact Nat.le_refl _
  split at h
  · obtain ⟨⟨content, after'⟩, hread, heq⟩ := Option.map_eq_some_iff.1 h
    cases heq
    exact Nat.le_of_lt (length_readChars hread)
  split at h
  all_goals
    obtain ⟨_, _, heq⟩ := Option.map_eq_some_iff.1 h
    cases heq
    exact (List.dropWhile_sublist _).length_le

def readAll : List Char → Option (List Token)
  | [] => some []
  | char :: rest =>
    if isSpace char then readAll rest
    else
      match h : read char rest with
      | none => none
      | some (token, after) =>
        have := length_read h
        (readAll after).map (token :: ·)
termination_by chars => chars.length

end Token

end Phrasebook.Json
