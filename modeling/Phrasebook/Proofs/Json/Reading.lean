import Phrasebook.Json.Reader
import Phrasebook.Json.Writer

/-!
What is written of an object of texts, such as a catalog, is read back, be it on many lines
(`ofText?_prettyText`) or on one (`ofText?_compactText`). The written text is cut into tokens first;
how it was laid out plays no role after that.
-/
namespace Phrasebook.Json

namespace Token

/-- Wherever these characters stand, they are read as these tokens. -/
def Spells (chars : List Char) (tokens : List Token) : Prop :=
  ∀ rest, readAll (chars ++ rest) = (readAll rest).map (tokens ++ ·)

theorem Spells.readAll_eq {chars : List Char} {tokens : List Token} (h : Spells chars tokens) :
    readAll chars = some tokens := by
  have hread := h []
  rw [readAll, List.append_nil] at hread
  simpa using hread

theorem Spells.append {chars chars' : List Char} {tokens tokens' : List Token}
    (h : Spells chars tokens) (h' : Spells chars' tokens') :
    Spells (chars ++ chars') (tokens ++ tokens') := by
  intro rest
  rw [List.append_assoc, h, h', Option.map_map]
  simp [Function.comp_def]

theorem spells_nil : Spells [] [] := by
  intro rest
  simp

theorem spells_space (char : Char) (h : isSpace char = true) : Spells [char] [] := by
  intro rest
  rw [List.singleton_append, readAll, if_pos h]
  simp

theorem spells_spaces {chars : List Char} (h : ∀ char ∈ chars, isSpace char = true) :
    Spells chars [] := by
  induction chars with
  | nil => exact spells_nil
  | cons char chars ih =>
    have hspace := spells_space char (h char List.mem_cons_self)
    exact hspace.append (ih fun other hother => h other (List.mem_cons_of_mem _ hother))

theorem readAll_of_read {char : Char} {rest after : List Char} {token : Token}
    (hspace : isSpace char = false) (h : read char rest = some (token, after)) :
    readAll (char :: rest) = (readAll after).map (token :: ·) := by
  rw [readAll, if_neg (by simp [hspace])]
  split
  · next hnone => simp [h] at hnone
  · next hsome =>
    cases h.symm.trans hsome
    rfl

theorem isSpace_eq_false_of_punctuation? {char : Char} {token : Token}
    (h : punctuation? char = some token) : isSpace char = false := by
  unfold punctuation? at h
  split at h
  case h_7 => contradiction
  all_goals decide

theorem spells_punctuation (char : Char) {token : Token} (h : punctuation? char = some token) :
    Spells [char] [token] := by
  intro rest
  have hread : read char rest = some (token, rest) := by simp [read, h]
  exact readAll_of_read (isSpace_eq_false_of_punctuation? h) hread

theorem spells_quoted (value : String) : Spells (quoted value) [scalar (.text value)] := by
  intro rest
  have hquote : punctuation? '"' = none := rfl
  have hread : read '"' (value.toList.flatMap quotedChar ++ ['"'] ++ rest) =
      some (scalar (.text value), rest) := by
    simp [read, hquote, readChars_quoted]
  exact readAll_of_read (by decide) hread

end Token

open Token

def textFields (pairs : List (String × String)) : List (String × Json) :=
  pairs.map fun (name, value) => (name, .text value)

def fieldTokens : List (String × String) → List Token
  | [] => []
  | [(name, value)] => [scalar (.text name), colon, scalar (.text value)]
  | (name, value) :: pairs =>
    [scalar (.text name), colon, scalar (.text value)] ++ comma :: fieldTokens pairs

def objectTokens (pairs : List (String × String)) : List Token :=
  openBrace :: (fieldTokens pairs ++ [closeBrace])

section Pretty

variable {indent : List Char} (hindent : ∀ char ∈ indent, isSpace char = true)

include hindent

theorem spells_lineBreak (level : Nat) : Spells (lineBreak indent level) [] := by
  refine spells_spaces fun char hchar => ?_
  rcases List.mem_cons.1 hchar with rfl | hchar
  · decide
  · obtain ⟨copy, hcopy, hmem⟩ := List.mem_flatten.1 hchar
    rw [List.eq_of_mem_replicate hcopy] at hmem
    exact hindent char hmem

theorem spells_prettyField (level : Nat) (name value : String) :
    Spells (lineBreak indent level ++ quoted name ++ ':' :: ' ' :: quoted value)
      [scalar (.text name), colon, scalar (.text value)] := by
  have hname := (spells_lineBreak hindent level).append (spells_quoted name)
  have hcolon := (spells_punctuation ':' rfl).append (spells_space ' ' rfl)
  exact hname.append (hcolon.append (spells_quoted value))

theorem spells_prettyFields (level : Nat) (pairs : List (String × String)) :
    Spells (prettyFields indent level (textFields pairs)) (fieldTokens pairs) := by
  induction pairs with
  | nil => exact spells_nil
  | cons pair pairs ih =>
    obtain ⟨name, value⟩ := pair
    have hfield := spells_prettyField hindent level name value
    cases pairs with
    | nil => exact hfield
    | cons next pairs =>
      have hcomma := spells_punctuation ',' rfl
      have hall := hfield.append (hcomma.append ih)
      simpa [textFields, prettyFields, prettyChars, scalarText, fieldTokens] using hall

theorem spells_prettyObject (level : Nat) (pairs : List (String × String)) :
    Spells (prettyChars indent level (object (textFields pairs))) (objectTokens pairs) := by
  have hopen := spells_punctuation '{' rfl
  have hclose := spells_punctuation '}' rfl
  cases pairs with
  | nil => exact hopen.append hclose
  | cons pair pairs =>
    have hfields := spells_prettyFields hindent (level + 1) (pair :: pairs)
    have hend := (spells_lineBreak hindent level).append hclose
    have hall := hopen.append (hfields.append hend)
    simpa [textFields, prettyChars, objectTokens] using hall

end Pretty

section Compact

theorem spells_compactField (name value : String) : Spells (quoted name ++ ':' :: quoted value)
    [scalar (.text name), colon, scalar (.text value)] := by
  have hcolon := spells_punctuation ':' rfl
  exact (spells_quoted name).append (hcolon.append (spells_quoted value))

theorem spells_compactFields (pairs : List (String × String)) :
    Spells (compactFields (textFields pairs)) (fieldTokens pairs) := by
  induction pairs with
  | nil => exact spells_nil
  | cons pair pairs ih =>
    obtain ⟨name, value⟩ := pair
    have hfield := spells_compactField name value
    cases pairs with
    | nil => exact hfield
    | cons next pairs =>
      have hcomma := spells_punctuation ',' rfl
      have hall := hfield.append (hcomma.append ih)
      simpa [textFields, compactFields, compactChars, scalarText, fieldTokens] using hall

theorem spells_compactObject (pairs : List (String × String)) :
    Spells (compactChars (object (textFields pairs))) (objectTokens pairs) := by
  have hopen := spells_punctuation '{' rfl
  have hclose := spells_punctuation '}' rfl
  exact hopen.append ((spells_compactFields pairs).append hclose)

end Compact

theorem length_le_length_fieldTokens (pairs : List (String × String)) :
    pairs.length ≤ (fieldTokens pairs).length := by
  fun_induction fieldTokens pairs with
  | case1 => exact Nat.le_refl _
  | case2 => simp
  | case3 name value pairs _ ih =>
    simp only [List.length_cons, List.length_append]
    omega

/-- One unit of fuel for each field, and one for the last value, are enough. -/
theorem readFields_fieldTokens {pairs : List (String × String)} (hpairs : pairs ≠ [])
    {fuel : Nat} (hfuel : pairs.length < fuel) (depth : Nat) (rest : List Token) :
    readFields fuel depth (fieldTokens pairs ++ closeBrace :: rest) =
      some (textFields pairs, rest) := by
  induction pairs generalizing fuel with
  | nil => contradiction
  | cons pair pairs ih =>
    obtain ⟨name, value⟩ := pair
    obtain ⟨fuel, rfl⟩ : ∃ more, fuel = more + 2 :=
      ⟨fuel - 2, by simp only [List.length_cons] at hfuel; omega⟩
    cases pairs with
    | nil => rfl
    | cons next pairs =>
      have hless : (next :: pairs).length < fuel + 1 := by
        simp only [List.length_cons] at hfuel ⊢
        omega
      have hrest := ih (List.cons_ne_nil _ _) hless
      simp only [fieldTokens, List.cons_append, List.nil_append, readFields, readValue]
      rw [hrest]
      rfl

theorem exists_fieldTokens_cons (pair : String × String) (pairs : List (String × String)) :
    ∃ tokens, fieldTokens (pair :: pairs) = scalar (.text pair.1) :: tokens := by
  cases pairs <;> exact ⟨_, rfl⟩

theorem readValue_objectTokens (pairs : List (String × String)) {fuel : Nat}
    (hfuel : pairs.length < fuel) (depth : Nat) :
    readValue (fuel + 1) (depth + 1) (objectTokens pairs) =
      some (object (textFields pairs), []) := by
  cases pairs with
  | nil => rfl
  | cons pair pairs =>
    have hfields := readFields_fieldTokens (List.cons_ne_nil pair pairs) hfuel depth []
    obtain ⟨tokens, htokens⟩ := exists_fieldTokens_cons pair pairs
    rw [htokens, List.cons_append] at hfields
    rw [objectTokens, htokens, List.cons_append, readValue, hfields]
    · rfl
    · simp

theorem ofTokens?_objectTokens (pairs : List (String × String)) :
    ofTokens? (objectTokens pairs) = some (object (textFields pairs)) := by
  have hlength := length_le_length_fieldTokens pairs
  have hfuel : pairs.length < 2 * (objectTokens pairs).length + 1 := by
    simp only [objectTokens, List.length_cons, List.length_append]
    omega
  rw [ofTokens?, deepest, readValue_objectTokens pairs hfuel]

theorem ofText?_prettyText {indent : String} (hindent : ∀ char ∈ indent.toList, isSpace char = true)
    (pairs : List (String × String)) :
    ofText? ((object (textFields pairs)).prettyText indent) = some (object (textFields pairs)) := by
  have hread := (spells_prettyObject hindent 0 pairs).readAll_eq
  rw [ofText?, prettyText, String.toList_ofList, hread]
  exact ofTokens?_objectTokens pairs

theorem ofText?_compactText (pairs : List (String × String)) :
    ofText? (object (textFields pairs)).compactText = some (object (textFields pairs)) := by
  have hread := (spells_compactObject pairs).readAll_eq
  rw [ofText?, compactText, String.toList_ofList, hread]
  exact ofTokens?_objectTokens pairs

end Phrasebook.Json
