import Phrasebook.Text.Blank
import Phrasebook.Text.Word

/-!
Calls of the translation function in program text. A call is the name of the function, an opening
parenthesis and a quoted literal, possibly with white space between them; the literal is a source
pattern. Where that name starts like a word, it must not be the tail of a longer word.
-/
namespace Phrasebook.Source

/-- The content of a literal up to its closing quote, without the backslashes that escape, and what
follows it. A backslash cannot stand at the end of a line. -/
def readLiteral (quote : Char) : List Char → Option (List Char × List Char)
  | [] => none
  | '\\' :: '\n' :: _ => none
  | '\\' :: char :: rest =>
    (readLiteral quote rest).map fun (content, rest) => (char :: content, rest)
  | char :: rest =>
    if char = quote then some ([], rest)
    else (readLiteral quote rest).map fun (content, rest) => (char :: content, rest)

def after? : List Char → List Char → Option (List Char)
  | [], chars => some chars
  | _ :: _, [] => none
  | expected :: rest, char :: chars => if expected = char then after? rest chars else none

def callAt? (callee chars : List Char) : Option (List Char × Char × List Char) := do
  let rest ← after? callee chars
  let rest ← after? ['('] (skipBlanks rest)
  match skipBlanks rest with
  | [] => none
  | quote :: rest =>
    if quote = '"' ∨ quote = '\'' then
      (readLiteral quote rest).map fun (content, rest) => (content, quote, rest)
    else none

def startsLikeWord (callee : List Char) : Bool :=
  match callee with
  | first :: _ => isLetterOrNumber first || first == '_'
  | [] => false

def isBoundary (before : Option Char) (char : Char) : Bool :=
  before.any isWordChar != isWordChar char

theorem length_readLiteral {quote : Char} {chars content rest : List Char}
    (h : readLiteral quote chars = some (content, rest)) : rest.length < chars.length := by
  fun_induction readLiteral quote chars generalizing content rest with
  | case1 => contradiction
  | case2 => contradiction
  | case3 char tail _ ih =>
    obtain ⟨⟨content', rest'⟩, hread, heq⟩ := Option.map_eq_some_iff.1 h
    cases heq
    have := ih hread
    simp only [List.length_cons]
    omega
  | case4 => cases h; simp
  | case5 char tail _ _ _ ih =>
    obtain ⟨⟨content', rest'⟩, hread, heq⟩ := Option.map_eq_some_iff.1 h
    cases heq
    have := ih hread
    simp only [List.length_cons]
    omega

theorem length_after? {expected chars rest : List Char} (h : after? expected chars = some rest) :
    rest.length ≤ chars.length := by
  fun_induction after? expected chars with
  | case1 => cases h; exact Nat.le_refl _
  | case2 => contradiction
  | case3 expected' chars _ ih =>
    have := ih h
    simp only [List.length_cons]
    omega
  | case4 => contradiction

theorem length_skipBlanks (chars : List Char) : (skipBlanks chars).length ≤ chars.length :=
  (List.dropWhile_sublist _).length_le

theorem length_callAt? {callee chars content rest : List Char} {quote : Char}
    (h : callAt? callee chars = some (content, quote, rest)) : rest.length < chars.length := by
  obtain ⟨rest₁, h₁, h⟩ := Option.bind_eq_some_iff.1 h
  obtain ⟨rest₂, h₂, h⟩ := Option.bind_eq_some_iff.1 h
  have hlength₁ := length_after? h₁
  have hlength₂ := length_after? h₂
  have hblanks₁ := length_skipBlanks rest₁
  have hblanks₂ := length_skipBlanks rest₂
  split at h
  · contradiction
  · next heq =>
    split at h
    · obtain ⟨⟨content', rest'⟩, hread, hparts⟩ := Option.map_eq_some_iff.1 h
      cases hparts
      have := length_readLiteral hread
      simp only [heq, List.length_cons] at hblanks₂
      omega
    · contradiction

/-- The literals of all calls, from left to right. The search goes on behind each literal. -/
def literals (callee : List Char) (before : Option Char) : List Char → List (List Char)
  | [] => []
  | char :: rest =>
    let call? :=
      if !startsLikeWord callee || isBoundary before char then callAt? callee (char :: rest)
      else none
    match h : call? with
    | some (content, quote, after) =>
      have : after.length < (char :: rest).length := by
        simp only [call?] at h
        split at h
        · exact length_callAt? h
        · contradiction
      content :: literals callee (some quote) after
    | none => literals callee (some char) rest
termination_by chars => chars.length
decreasing_by
  · exact this
  · exact Nat.lt_succ_self _

def patterns (callee content : String) : List String :=
  (literals callee.toList none content.toList).map String.ofList

end Phrasebook.Source
