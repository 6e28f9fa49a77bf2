/-!
Texts as sequences of literal characters and fragments. A fragment is a pair of braces with no
brace between them; a brace outside every fragment is literal. Splitting loses nothing
(`flatMap_toList_split`), and a brace-free word between braces is always one fragment
(`split_fragment_append`).
-/
namespace Phrasebook

def isBrace (c : Char) : Bool :=
  c == '{' || c == '}'

def braced (word : String) : String :=
  "\x7b" ++ word ++ "\x7d"

inductive Segment where
  | literal (char : Char)
  | fragment (word : String)
  deriving DecidableEq

namespace Segment

def toList : Segment → List Char
  | literal char => [char]
  | fragment word => '{' :: (word.toList ++ ['}'])

/-- The word before the first brace, and the segments behind that brace, if it is a literal
closing one. -/
def closing : List Segment → Option (List Char × List Segment)
  | literal '}' :: rest => some ([], rest)
  | literal '{' :: _ => none
  | literal char :: rest => (closing rest).map fun (word, rest) => (char :: word, rest)
  | _ => none

/-- An opening brace makes a fragment exactly when the next brace closes it, so it is enough to
look at the segments of what follows. -/
def split : List Char → List Segment
  | [] => []
  | char :: rest =>
    let tail := split rest
    if char = '{' then
      match closing tail with
      | some (word, after) => fragment (String.ofList word) :: after
      | none => literal char :: tail
    else literal char :: tail

theorem toList_closing {segments after : List Segment} {word : List Char}
    (h : closing segments = some (word, after)) :
    segments.flatMap toList = word ++ '}' :: after.flatMap toList := by
  fun_induction closing segments generalizing word after with
  | case1 rest => simp_all [toList]
  | case2 => simp at h
  | case3 char rest _ _ ih =>
    obtain ⟨⟨word', after'⟩, h', heq⟩ := Option.map_eq_some_iff.1 h
    cases heq
    simp [toList, ih h']
  | case4 => simp at h

@[simp] theorem flatMap_toList_split (chars : List Char) :
    (split chars).flatMap toList = chars := by
  induction chars with
  | nil => rfl
  | cons char rest ih =>
    rw [split]
    split
    · next hopen =>
      split
      · next hclose =>
        have := toList_closing hclose
        simp_all [toList]
      · simp [toList, ih]
    · simp [toList, ih]

theorem closing_split_append {word : List Char} (hword : ∀ c ∈ word, isBrace c = false)
    (rest : List Char) :
    closing (split (word ++ '}' :: rest)) = some (word, split rest) := by
  induction word with
  | nil => simp [split, closing]
  | cons char word ih =>
    have hchar : isBrace char = false := hword char (by simp)
    have hrest := ih fun c hc => hword c (by simp [hc])
    simp only [isBrace, Bool.or_eq_false_iff, beq_eq_false_iff_ne] at hchar
    rw [List.cons_append, split, if_neg hchar.1, closing, hrest]
    · rfl
    · exact fun h => hchar.2 h
    · exact fun h => hchar.1 h

theorem split_fragment_append {word : List Char} (hword : ∀ c ∈ word, isBrace c = false)
    (rest : List Char) :
    split ('{' :: (word ++ '}' :: rest)) = fragment (String.ofList word) :: split rest := by
  rw [split, if_pos rfl]
  simp [closing_split_append hword]

end Segment

def segments (text : String) : List Segment :=
  Segment.split text.toList

def Segment.word? : Segment → Option String
  | literal _ => none
  | fragment word => some word

def fragments (text : String) : List String :=
  (segments text).filterMap Segment.word?

def Segment.rewrite (replacement : String → String) : Segment → List Char
  | literal char => [char]
  | fragment word => (replacement word).toList

/-- Put a text in the place of every fragment, braces included, and keep all else. What is put in
is not looked at again. -/
def replaceFragments (replacement : String → String) (text : String) : String :=
  String.ofList ((segments text).flatMap (Segment.rewrite replacement))

@[simp] theorem replaceFragments_braced (text : String) : replaceFragments braced text = text := by
  have hpiece : Segment.rewrite braced = Segment.toList := by
    funext segment
    cases segment <;> simp [Segment.rewrite, Segment.toList, braced]
  simp only [replaceFragments, hpiece, segments, Segment.flatMap_toList_split]
  exact String.ofList_toList

end Phrasebook
