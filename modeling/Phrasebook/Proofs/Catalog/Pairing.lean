import Phrasebook.Catalog.Validation
import Phrasebook.Proofs.Text.Segmentation

/-!
Texts whose braces pair up. They are the texts in which every brace belongs to a fragment
(`bracesPairUp_iff`), so another word in the place of a fragment keeps the braces paired up
(`bracesPairUp_replaceFragments`).
-/
namespace Phrasebook

theorem openingsClosed_of_bracesPairUp {isOpen : Bool} {chars : List Char}
    (h : bracesPairUp isOpen chars = true) :
    Segment.OpeningsClosed chars ∧ (isOpen = true → '}' ∈ chars) := by
  fun_induction bracesPairUp isOpen chars with
  | case1 isOpen =>
    refine ⟨fun rest hrest => ?_, fun hopen => ?_⟩
    · simp at hrest
    · simp [hopen] at h
  | case2 isOpen rest ih =>
    simp only [Bool.and_eq_true, Bool.not_eq_true'] at h
    obtain ⟨hrest, hclose⟩ := ih h.2
    refine ⟨fun after hafter => ?_, fun hopen => ?_⟩
    · rcases List.suffix_cons_iff.1 hafter with heq | hsuffix
      · cases heq
        exact hclose rfl
      · exact hrest after hsuffix
    · simp [hopen] at h
  | case3 isOpen rest ih =>
    simp only [Bool.and_eq_true] at h
    refine ⟨fun after hafter => ?_, fun _ => List.mem_cons_self⟩
    rcases List.suffix_cons_iff.1 hafter with heq | hsuffix
    · simp at heq
    · exact (ih h.2).1 after hsuffix
  | case4 isOpen char rest hopenChar hcloseChar ih =>
    obtain ⟨hrest, hclose⟩ := ih h
    refine ⟨fun after hafter => ?_, fun hopen => List.mem_cons_of_mem _ (hclose hopen)⟩
    rcases List.suffix_cons_iff.1 hafter with heq | hsuffix
    · exact absurd (List.cons.inj heq).1.symm hopenChar
    · exact hrest after hsuffix

theorem bracesPairUp_append {word : List Char} (hword : ∀ c ∈ word, isBrace c = false)
    (isOpen : Bool) (rest : List Char) :
    bracesPairUp isOpen (word ++ rest) = bracesPairUp isOpen rest := by
  induction word with
  | nil => rfl
  | cons char word ih =>
    obtain ⟨hchar, hword⟩ := List.forall_mem_cons.1 hword
    simp only [isBrace, Bool.or_eq_false_iff, beq_eq_false_iff_ne] at hchar
    rw [List.cons_append, bracesPairUp, ih hword]
    · exact hchar.1
    · exact hchar.2

theorem exists_of_bracesPairUp_true {chars : List Char} (h : bracesPairUp true chars = true) :
    ∃ word rest, chars = word ++ '}' :: rest ∧ ∀ c ∈ word, isBrace c = false := by
  generalize hopen : true = isOpen at h
  fun_induction bracesPairUp isOpen chars with
  | case1 => simp [← hopen] at h
  | case2 => simp [← hopen] at h
  | case3 isOpen rest => exact ⟨[], rest, rfl, List.forall_mem_nil _⟩
  | case4 isOpen char rest hopenChar hcloseChar ih =>
    obtain ⟨word, rest, rfl, hword⟩ := ih hopen h
    refine ⟨char :: word, rest, rfl, List.forall_mem_cons.2 ⟨?_, hword⟩⟩
    simp only [isBrace, Bool.or_eq_false_iff, beq_eq_false_iff_ne]
    exact ⟨hopenChar, hcloseChar⟩

namespace Segment

theorem bracesPairUp_iff {chars : List Char} :
    bracesPairUp false chars = true ↔
      ∀ char, literal char ∈ split chars → isBrace char = false := by
  induction chars using split_induction with
  | nil => simp [bracesPairUp, split]
  | fragment word rest hword ih =>
    rw [split_fragment_append hword, bracesPairUp, bracesPairUp_append hword, bracesPairUp]
    simp [ih]
  | literal char rest hsplit ih =>
    by_cases hopen : char = '{'
    · subst hopen
      -- An opening brace that starts no fragment is followed by another one, or by none at all.
      have hclose : bracesPairUp true rest ≠ true := by
        intro h
        obtain ⟨word, after, rfl, hword⟩ := exists_of_bracesPairUp_true h
        rw [split_fragment_append hword] at hsplit
        simp at hsplit
      simp [bracesPairUp, hclose, hsplit, isBrace]
    · by_cases hclose : char = '}'
      · subst hclose
        simp [bracesPairUp, hsplit, isBrace]
      · rw [bracesPairUp, ih, hsplit]
        · simp [isBrace, hopen, hclose]
        · exact hopen
        · exact hclose

end Segment

theorem bracesPairUp_iff {text : String} :
    bracesPairUp false text.toList = true ↔
      ∀ char, .literal char ∈ segments text → isBrace char = false :=
  Segment.bracesPairUp_iff

theorem bracesPairUp_replaceFragments {rename : String → String} {text : String}
    (hrename : ∀ word ∈ fragments text, BraceFree (rename word)) :
    bracesPairUp false (replaceFragments (fun word => braced (rename word)) text).toList =
      bracesPairUp false text.toList := by
  rw [Bool.eq_iff_iff, bracesPairUp_iff, bracesPairUp_iff, segments_replaceFragments hrename]
  refine forall_congr' fun char => imp_congr_left ?_
  rw [List.mem_map]
  constructor
  · rintro ⟨segment, hsegment, heq⟩
    cases segment with
    | literal other =>
      cases heq
      exact hsegment
    | fragment word => contradiction
  · exact fun h => ⟨_, h, rfl⟩

end Phrasebook
