import Phrasebook.Proofs.Text.Fragment

/-!
Stray braces: those that stand in no fragment. That a text has none can be told in three ways,
without cutting it into segments: by looking at the places of its braces (`HasStrayBrace`), by
taking all fragments out (`braceFree_replaceFragments_iff`), and by putting the text together from
fragments and pieces without braces (`tiled_iff`).
-/
namespace Phrasebook

namespace Segment

/-- The place is that of a character between a pair of braces, or of one of the two, and there is no
other brace between them. -/
def InFragment (chars : List Char) (place : Nat) : Prop :=
  ∃ before word after, chars = before ++ '{' :: (word ++ '}' :: after) ∧
    (∀ c ∈ word, isBrace c = false) ∧ before.length ≤ place ∧ place < before.length + word.length + 2

variable {chars : List Char} {place : Nat} {char : Char}

theorem InFragment.append (h : InFragment chars place) (front : List Char) :
    InFragment (front ++ chars) (front.length + place) := by
  obtain ⟨before, word, after, rfl, hword, hstart, hend⟩ := h
  refine ⟨front ++ before, word, after, (List.append_assoc ..).symm, hword, ?_, ?_⟩ <;>
    rw [List.length_append] <;> omega

theorem literal_mem_split_or_inFragment (h : chars[place]? = some char) :
    literal char ∈ split chars ∨ InFragment chars place := by
  induction chars using split_induction generalizing place with
  | nil => simp at h
  | fragment word rest hword ih =>
    by_cases hplace : place < word.length + 2
    · exact .inr ⟨[], word, rest, rfl, hword, Nat.zero_le _, by simpa using hplace⟩
    · obtain ⟨further, rfl⟩ := Nat.exists_eq_add_of_le (Nat.le_of_not_lt hplace)
      have hchars : '{' :: (word ++ '}' :: rest) = ('{' :: (word ++ ['}'])) ++ rest := by simp
      have hlength : ('{' :: (word ++ ['}'])).length = word.length + 2 := by simp
      rw [hchars, ← hlength, List.getElem?_append_right (Nat.le_add_right ..),
        Nat.add_sub_cancel_left] at h
      rw [split_fragment_append hword]
      rcases ih h with hliteral | hinside
      · exact .inl (List.mem_cons_of_mem _ hliteral)
      · refine .inr ?_
        rw [hchars, ← hlength]
        exact hinside.append _
  | literal other rest hsplit ih =>
    rw [hsplit]
    cases place with
    | zero =>
      obtain rfl : other = char := by simpa using h
      exact .inl List.mem_cons_self
    | succ place =>
      rcases ih (by simpa using h) with hliteral | hinside
      · exact .inl (List.mem_cons_of_mem _ hliteral)
      · refine .inr ?_
        rw [Nat.add_comm]
        exact hinside.append [other]

/-- A literal character belongs to no fragment, because every fragment of the text is a segment. -/
theorem not_inFragment_of_split_eq_append {front back : List Segment}
    (h : split chars = front ++ literal char :: back) :
    chars[(front.flatMap toList).length]? = some char ∧
      ¬ InFragment chars (front.flatMap toList).length := by
  constructor
  · rw [← flatMap_toList_split chars, h, List.flatMap_append, List.flatMap_cons]
    simp [toList]
  · rintro ⟨before, word, after, rfl, hword, hstart, hend⟩
    rw [split_append_fragment hword] at h
    rcases List.append_eq_append_iff.1 h with ⟨between, rfl, hbetween⟩ | ⟨between, hfront, hbetween⟩
    · -- The character stands behind the fragment.
      cases between with
      | nil => simp at hbetween
      | cons segment between =>
        obtain ⟨rfl, -⟩ := List.cons.inj hbetween
        rw [List.flatMap_append, flatMap_toList_split, List.flatMap_cons] at hend
        simp only [toList, List.length_append, List.length_cons, String.toList_ofList,
          List.length_nil] at hend
        omega
    · -- The character stands in front of the fragment.
      cases between with
      | nil => simp at hbetween
      | cons segment between =>
        obtain ⟨rfl, -⟩ := List.cons.inj hbetween
        rw [← flatMap_toList_split before, hfront, List.flatMap_append, List.flatMap_cons] at hstart
        simp only [toList, List.length_append, List.length_cons, List.length_nil] at hstart
        omega

end Segment

def HasStrayBrace (text : String) : Prop :=
  ∃ place brace, text.toList[place]? = some brace ∧ isBrace brace = true ∧
    ¬ Segment.InFragment text.toList place

/-- Nothing but pieces without braces and fragments, one behind the other. -/
inductive Tiled : String → Prop
  | empty : Tiled ""
  | piece {piece rest : String} (hpiece : BraceFree piece) (tiled : Tiled rest) :
      Tiled (piece ++ rest)
  | fragment {word rest : String} (hword : BraceFree word) (tiled : Tiled rest) :
      Tiled (braced word ++ rest)

variable {text : String}

theorem hasStrayBrace_iff :
    HasStrayBrace text ↔ ∃ brace, .literal brace ∈ segments text ∧ isBrace brace = true := by
  constructor
  · rintro ⟨place, brace, hplace, hbrace, houtside⟩
    exact ⟨brace, (Segment.literal_mem_split_or_inFragment hplace).resolve_right houtside, hbrace⟩
  · rintro ⟨brace, hmem, hbrace⟩
    obtain ⟨front, back, hsplit⟩ := List.append_of_mem hmem
    obtain ⟨hplace, houtside⟩ := Segment.not_inFragment_of_split_eq_append hsplit
    exact ⟨_, brace, hplace, hbrace, houtside⟩

theorem not_hasStrayBrace_iff :
    ¬ HasStrayBrace text ↔ ∀ char, .literal char ∈ segments text → isBrace char = false := by
  simp [hasStrayBrace_iff]

theorem braceFree_replaceFragments_iff :
    BraceFree (replaceFragments (fun _ => "") text) ↔ ¬ HasStrayBrace text := by
  have hmem (char : Char) : char ∈ (replaceFragments (fun _ => "") text).toList ↔
      .literal char ∈ segments text := by
    rw [replaceFragments, String.toList_ofList, List.mem_flatMap]
    constructor
    · rintro ⟨segment, hsegment, hchar⟩
      cases segment with
      | literal other =>
        obtain rfl := List.mem_singleton.1 hchar
        exact hsegment
      | fragment word => exact absurd hchar List.not_mem_nil
    · exact fun hsegment => ⟨_, hsegment, List.mem_singleton_self char⟩
  rw [not_hasStrayBrace_iff]
  exact forall_congr' fun char => imp_congr_left (hmem char)

theorem openingsClosed_of_braceFree (h : BraceFree text) : Segment.OpeningsClosed text.toList :=
  fun _ hsuffix => absurd (h '{' (hsuffix.mem List.mem_cons_self)) (by decide)

theorem not_hasStrayBrace_of_tiled (h : Tiled text) : ¬ HasStrayBrace text := by
  rw [← braceFree_replaceFragments_iff]
  induction h with
  | empty => decide
  | piece hpiece tiled ih =>
    rw [replaceFragments_append (openingsClosed_of_braceFree hpiece),
      replaceFragments_of_braceFree hpiece, braceFree_append]
    exact ⟨hpiece, ih⟩
  | fragment hword tiled ih =>
    rw [replaceFragments_braced_append hword, String.empty_append]
    exact ih

theorem tiled_ofList {chars : List Char}
    (h : ∀ char, Segment.literal char ∈ Segment.split chars → isBrace char = false) :
    Tiled (String.ofList chars) := by
  induction chars using Segment.split_induction with
  | nil => exact .empty
  | fragment word rest hword ih =>
    rw [Segment.split_fragment_append hword] at h
    have htext : String.ofList ('{' :: (word ++ '}' :: rest)) =
        braced (String.ofList word) ++ String.ofList rest := by
      simp [← String.toList_inj, toList_braced]
    rw [htext]
    exact .fragment (by simpa [BraceFree] using hword)
      (ih fun char hchar => h char (List.mem_cons_of_mem _ hchar))
  | literal char rest hsplit ih =>
    rw [hsplit] at h
    have htext : String.ofList (char :: rest) = String.ofList [char] ++ String.ofList rest := by
      simp
    have hpiece : BraceFree (String.ofList [char]) := by
      simpa [BraceFree] using h char List.mem_cons_self
    rw [htext]
    exact .piece hpiece (ih fun other hother => h other (List.mem_cons_of_mem _ hother))

theorem tiled_iff : Tiled text ↔ ¬ HasStrayBrace text := by
  refine ⟨not_hasStrayBrace_of_tiled, fun h => ?_⟩
  have htiled := tiled_ofList (not_hasStrayBrace_iff.1 h)
  rwa [String.ofList_toList] at htiled

end Phrasebook
