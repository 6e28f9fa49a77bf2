import Phrasebook.Proofs.Text.Segmentation

/-!
Fragments as parts of a text. A text is cut into segments from its end, but what its fragments are
can be told by looking at its parts alone: the fragments are the brace-free words that stand
between braces (`mem_fragments_iff`), and those in front of one of them are the fragments of the
text up to there (`exists_of_fragments_eq_append`).
-/
namespace Phrasebook

/-- The word stands somewhere in the text between braces, with no brace between the two. -/
def HasFragment (text word : String) : Prop :=
  BraceFree word ∧ ∃ before after, text = before ++ braced word ++ after

namespace Segment

theorem toList_ne_nil (segment : Segment) : segment.toList ≠ [] := by
  cases segment <;> simp [toList]

theorem append_cons_inj {front front' back back' : List Segment} {segment : Segment}
    (h : front ++ segment :: back = front' ++ segment :: back')
    (hfront : front.flatMap toList = front'.flatMap toList) : front = front' := by
  have hnil {more : List Segment} (hmore : more.flatMap toList = []) : more = [] := by
    rw [List.flatMap_eq_nil_iff] at hmore
    exact List.eq_nil_iff_forall_not_mem.2 fun other hother =>
      toList_ne_nil other (hmore other hother)
  rcases List.append_eq_append_iff.1 h with ⟨more, rfl, -⟩ | ⟨more, rfl, -⟩
  · rw [List.flatMap_append, List.self_eq_append_right] at hfront
    rw [hnil hfront, List.append_nil]
  · rw [List.flatMap_append, List.append_right_eq_self] at hfront
    rw [hnil hfront, List.append_nil]

theorem exists_of_split_eq_append {chars : List Char} {front back : List Segment} {word : String}
    (h : split chars = front ++ fragment word :: back) :
    ∃ before after, chars = before ++ '{' :: (word.toList ++ '}' :: after) ∧
      split before = front ∧ split after = back := by
  have hmem : fragment word ∈ split chars := by simp [h]
  have hword := braceFree_of_mem_split hmem
  have hchars : chars = front.flatMap toList ++
      '{' :: (word.toList ++ '}' :: back.flatMap toList) := by
    rw [← flatMap_toList_split chars, h]
    simp [toList]
  refine ⟨front.flatMap toList, back.flatMap toList, hchars, ?_⟩
  rw [hchars, split_append_fragment hword, String.ofList_toList] at h
  have hfront := append_cons_inj h (flatMap_toList_split _)
  rw [hfront] at h
  exact ⟨hfront, (List.cons.inj (List.append_cancel_left h)).2⟩

end Segment

theorem fragments_append_braced {word : String} (hword : BraceFree word) (before after : String) :
    fragments (before ++ braced word ++ after) = fragments before ++ word :: fragments after := by
  simp [fragments, segments_append_braced hword, Segment.word?]

theorem segments_braced_eq_singleton {word inner : String} :
    segments (braced word) = [.fragment inner] ↔ inner = word ∧ BraceFree word := by
  constructor
  · intro hsegments
    have hmem : inner ∈ fragments (braced word) := by
      rw [mem_fragments, hsegments]
      exact List.mem_singleton_self _
    have hinner : BraceFree inner := braceFree_of_mem_fragments hmem
    have hchars := Segment.flatMap_toList_split (braced word).toList
    rw [← segments, hsegments, toList_braced] at hchars
    have heq : inner = word := by
      simpa [Segment.toList, String.toList_inj] using hchars
    exact ⟨heq, heq ▸ hinner⟩
  · rintro ⟨rfl, hword⟩
    have h := segments_append_braced hword "" ""
    rwa [String.empty_append, String.append_empty] at h

theorem exists_of_fragments_eq_append {text word : String} {front back : List String}
    (h : fragments text = front ++ word :: back) :
    ∃ before after, text = before ++ braced word ++ after ∧ fragments before = front ∧
      fragments after = back := by
  obtain ⟨front', segments', hsegments, rfl, hback⟩ := List.filterMap_eq_append_iff.1 h
  obtain ⟨literals, segment, back', rfl, hliterals, hsegment, rfl⟩ :=
    List.filterMap_eq_cons_iff.1 hback
  obtain rfl : segment = .fragment word := by
    cases segment with
    | literal char => contradiction
    | fragment other => exact congrArg Segment.fragment (Option.some.inj hsegment)
  rw [← List.append_assoc] at hsegments
  obtain ⟨before, after, hchars, hbefore, hafter⟩ := Segment.exists_of_split_eq_append hsegments
  refine ⟨String.ofList before, String.ofList after, ?_, ?_, ?_⟩
  · rw [← String.toList_inj, hchars]
    simp [toList_braced]
  · rw [fragments, segments, String.toList_ofList, hbefore, List.filterMap_append,
      List.filterMap_eq_nil_iff.2 hliterals, List.append_nil]
  · rw [fragments, segments, String.toList_ofList, hafter]

theorem mem_fragments_iff {text word : String} : word ∈ fragments text ↔ HasFragment text word := by
  constructor
  · intro h
    obtain ⟨front, back, heq⟩ := List.append_of_mem h
    obtain ⟨before, after, rfl, -⟩ := exists_of_fragments_eq_append heq
    exact ⟨braceFree_of_mem_fragments h, before, after, rfl⟩
  · rintro ⟨hword, before, after, rfl⟩
    simp [fragments_append_braced hword]

theorem fragments_of_braceFree {text : String} (h : BraceFree text) : fragments text = [] := by
  refine List.eq_nil_iff_forall_not_mem.2 fun word hword => ?_
  obtain ⟨-, before, after, rfl⟩ := mem_fragments_iff.1 hword
  exact absurd (h '{' (by simp [toList_braced])) (by decide)

theorem replaceFragments_of_braceFree {text : String} (h : BraceFree text)
    (replacement : String → String) : replaceFragments replacement text = text := by
  refine (replaceFragments_congr fun word hword => ?_).trans (replaceFragments_braced text)
  rw [fragments_of_braceFree h] at hword
  exact absurd hword List.not_mem_nil

theorem replaceFragments_braced_append {word : String} (hword : BraceFree word)
    (replacement : String → String) (rest : String) :
    replaceFragments replacement (braced word ++ rest) =
      replacement word ++ replaceFragments replacement rest := by
  have hempty : replaceFragments replacement "" = "" := rfl
  have h := replaceFragments_append_braced hword replacement "" rest
  rwa [hempty, String.empty_append, String.empty_append] at h

theorem fragments_join_braced {words : List String} (h : ∀ word ∈ words, BraceFree word) :
    fragments (String.join (words.map braced)) = words := by
  induction words with
  | nil => rfl
  | cons word words ih =>
    obtain ⟨hword, hwords⟩ := List.forall_mem_cons.1 h
    have hfirst := fragments_append_braced hword "" (String.join (words.map braced))
    rw [ih hwords, String.empty_append] at hfirst
    rw [List.map_cons, String.join_cons, hfirst]
    rfl

end Phrasebook
