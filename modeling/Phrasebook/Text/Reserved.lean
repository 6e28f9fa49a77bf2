import Phrasebook.Text.Segment

/-!
The characters that delimit placeholders and tags, and the two shapes built from them: a word
applied to a word, `outer(inner)`, and the same once more, `outer(middle(inner))`.
-/
namespace Phrasebook

def isReserved (char : Char) : Bool :=
  char == '{' || char == '}' || char == '(' || char == ')'

def hasParenthesis (text : String) : Bool :=
  text.toList.any fun char => char == '(' || char == ')'

/-- No reserved character, but possibly no character at all. -/
def isPlain (text : String) : Bool :=
  text.toList.all (!isReserved ·)

def plainRun (chars : List Char) : List Char × List Char :=
  (chars.takeWhile (!isReserved ·), chars.dropWhile (!isReserved ·))

theorem plainRun_append {word : List Char} (hword : ∀ c ∈ word, isReserved c = false)
    {mark : Char} (hmark : isReserved mark = true) (rest : List Char) :
    plainRun (word ++ mark :: rest) = (word, mark :: rest) := by
  induction word with
  | nil => simp [plainRun, hmark]
  | cons char word ih =>
    have hchar : isReserved char = false := hword char (by simp)
    have hrest := ih fun c hc => hword c (by simp [hc])
    simp only [plainRun, Prod.mk.injEq] at hrest
    simp [plainRun, hchar, hrest.1, hrest.2]

/-- The two words of `outer(inner)`; the inner one may be empty. -/
def application? (chars : List Char) : Option (String × String) :=
  match plainRun chars with
  | ([], _) => none
  | (outer, '(' :: rest) =>
    match plainRun rest with
    | (inner, [')']) => some (String.ofList outer, String.ofList inner)
    | _ => none
  | _ => none

/-- The three words of `outer(middle(inner))`, none of them empty. -/
def nestedApplication? (chars : List Char) : Option (String × String × String) :=
  match plainRun chars with
  | ([], _) => none
  | (outer, '(' :: rest) =>
    match plainRun rest with
    | ([], _) => none
    | (middle, '(' :: rest) =>
      match plainRun rest with
      | ([], _) => none
      | (inner, [')', ')']) =>
        some (String.ofList outer, String.ofList middle, String.ofList inner)
      | _ => none
    | _ => none
  | _ => none

end Phrasebook
