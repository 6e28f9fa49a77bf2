import Mathlib.Data.List.Basic
import Phrasebook.Text.Occurrence
import Phrasebook.Text.Segment

/-!
The segments of a rewritten text. Putting brace-free words in the place of the words between
braces changes those words and no other segment (`segments_replaceFragments`), also where
unpaired braces stand around them. No fragment reaches out of a text whose opening braces are all
closed (`split_append`). Replacing a braced word as a part of the text is the same as replacing the
fragments that have this word (`replaceFrom_eq_flatMap`).
-/
namespace Phrasebook

def BraceFree (text : String) : Prop :=
  ∀ c ∈ text.toList, isBrace c = false

instance (text : String) : Decidable (BraceFree text) :=
  List.decidableBAll (fun c => isBrace c = false) text.toList

theorem braceFree_append {text text' : String} :
    BraceFree (text ++ text') ↔ BraceFree text ∧ BraceFree text' := by
  simp [BraceFree, or_imp, forall_and]

namespace Segment

def mapWord (rename : String → String) : Segment → Segment
  | literal char => literal char
  | fragment word => fragment (rename word)

theorem braceFree_of_closing {segments after : List Segment} {word : List Char}
    (h : closing segments = some (word, after)) : ∀ c ∈ word, isBrace c = false := by
  fun_induction closing segments generalizing word after with
  | case1 rest => simp_all
  | case2 => simp at h
  | case3 char rest hclose hopen ih =>
    obtain ⟨⟨word', after'⟩, h', heq⟩ := Option.map_eq_some_iff.1 h
    cases heq
    intro c hc
    rcases List.mem_cons.1 hc with rfl | hc
    · have hne : c ≠ '{' ∧ c ≠ '}' := ⟨fun h => hopen h, fun h => hclose h⟩
      simp [isBrace, hne]
    · exact ih h' c hc
  | case4 => simp at h

theorem closing_split_eq_some {chars word : List Char} {after : List Segment}
    (h : closing (split chars) = some (word, after)) :
    ∃ rest, chars = word ++ '}' :: rest ∧ after = split rest := by
  have hword := braceFree_of_closing h
  have hchars : chars = word ++ '}' :: after.flatMap toList := by
    rw [← toList_closing h, flatMap_toList_split]
  rw [hchars, closing_split_append hword] at h
  exact ⟨after.flatMap toList, hchars, (Prod.mk.inj (Option.some.inj h)).2.symm⟩

@[elab_as_elim] theorem split_induction {motive : List Char → Prop} (nil : motive [])
    (fragment : ∀ word rest, (∀ c ∈ word, isBrace c = false) → motive rest →
      motive ('{' :: (word ++ '}' :: rest)))
    (literal : ∀ char rest, split (char :: rest) = literal char :: split rest → motive rest →
      motive (char :: rest))
    (chars : List Char) : motive chars := by
  induction hlength : chars.length using Nat.strongRecOn generalizing chars with
  | ind length ih =>
    subst hlength
    cases chars with
    | nil => exact nil
    | cons char rest =>
      have hrest := ih rest.length (by simp) rest rfl
      by_cases hopen : char = '{'
      · cases hclose : closing (split rest) with
        | none =>
          apply literal char rest _ hrest
          rw [split, if_pos hopen]
          simp [hclose]
        | some pair =>
          obtain ⟨after, rfl, -⟩ := closing_split_eq_some hclose
          rw [hopen]
          exact fragment pair.1 after (braceFree_of_closing hclose)
            (ih after.length (by simp; omega) after rfl)
      · apply literal char rest _ hrest
        rw [split, if_neg hopen]

theorem braceFree_of_mem_split {chars : List Char} {word : String}
    (h : fragment word ∈ split chars) : BraceFree word := by
  induction chars using split_induction with
  | nil => simp [split] at h
  | fragment inner rest hinner ih =>
    rw [split_fragment_append hinner] at h
    rcases List.mem_cons.1 h with heq | h
    · cases heq
      simpa [BraceFree] using hinner
    · exact ih h
  | literal char rest hsplit ih =>
    rw [hsplit] at h
    rcases List.mem_cons.1 h with heq | h
    · cases heq
    · exact ih h

theorem closing_map (rename : String → String) (segments : List Segment) :
    closing (segments.map (mapWord rename)) =
      (closing segments).map fun (word, after) => (word, after.map (mapWord rename)) := by
  fun_induction closing segments with
  | case1 rest => rfl
  | case2 rest => rfl
  | case3 char rest hclose hopen ih =>
    rw [List.map_cons, mapWord, closing, ih, Option.map_map, Option.map_map]
    · rfl
    · exact fun h => hclose h
    · exact fun h => hopen h
  | case4 segments h1 h2 h3 =>
    cases segments with
    | nil => rfl
    | cons segment rest =>
      cases segment with
      | literal char => exact absurd rfl (h3 char rest)
      | fragment word => rfl

theorem split_flatMap_mapWord {rename : String → String} {chars : List Char}
    (h : ∀ word, fragment word ∈ split chars → BraceFree (rename word)) :
    split ((split chars).flatMap fun segment => (segment.mapWord rename).toList) =
      (split chars).map (mapWord rename) := by
  induction chars using split_induction with
  | nil => rfl
  | fragment word rest hword ih =>
    rw [split_fragment_append hword] at h ⊢
    have hrest := ih fun other hother => h other (List.mem_cons_of_mem _ hother)
    have hnew := h (String.ofList word) (by simp)
    rw [List.flatMap_cons, mapWord, toList, List.cons_append, List.append_assoc,
      List.singleton_append, split_fragment_append hnew, hrest, String.ofList_toList]
    rfl
  | literal char rest hsplit ih =>
    have hrest := ih fun word hword => h word (by simp [hsplit, hword])
    rw [hsplit, List.flatMap_cons, mapWord, toList, List.singleton_append, split, hrest,
      closing_map, List.map_cons]
    -- An opening brace that was literal before finds no closing one now.
    rw [split] at hsplit
    split at hsplit
    · next hopen =>
      split at hsplit
      · simp at hsplit
      · next hclose => simp [hopen, hclose, mapWord]
    · next hopen => simp [hopen, mapWord]

theorem closing_append_fragment (before : List Segment) (word : String) (after : List Segment) :
    closing (before ++ fragment word :: after) =
      (closing before).map fun (front, rest) => (front, rest ++ fragment word :: after) := by
  fun_induction closing before with
  | case1 rest => rfl
  | case2 rest => rfl
  | case3 char rest hclose hopen ih =>
    rw [List.cons_append, closing, ih, Option.map_map, Option.map_map]
    · rfl
    · exact fun h => hclose h
    · exact fun h => hopen h
  | case4 segments h1 h2 h3 =>
    cases segments with
    | nil => rfl
    | cons segment rest =>
      cases segment with
      | literal char => exact absurd rfl (h3 char rest)
      | fragment word => rfl

theorem split_append_fragment {word : List Char} (hword : ∀ c ∈ word, isBrace c = false)
    (before after : List Char) :
    split (before ++ '{' :: (word ++ '}' :: after)) =
      split before ++ fragment (String.ofList word) :: split after := by
  induction before with
  | nil => exact split_fragment_append hword after
  | cons char before ih =>
    rw [List.cons_append, split, ih, closing_append_fragment, split]
    by_cases hopen : char = '{'
    · cases hclose : closing (split before) with
      | none => simp [hopen]
      | some pair => simp [hopen]
    · simp [hopen]

/-- Behind every opening brace stands a closing one, whether or not that one belongs to it. -/
def OpeningsClosed (chars : List Char) : Prop :=
  ∀ rest, '{' :: rest <:+ chars → '}' ∈ rest

theorem OpeningsClosed.of_suffix {chars rest : List Char} (h : OpeningsClosed chars)
    (hrest : rest <:+ chars) : OpeningsClosed rest :=
  fun after hafter => h after (hafter.trans hrest)

theorem closing_append_of_eq_none {segments : List Segment} (hnone : closing segments = none)
    (hclose : '}' ∈ segments.flatMap toList) (more : List Segment) :
    closing (segments ++ more) = none := by
  fun_induction closing segments with
  | case1 rest => contradiction
  | case2 rest => rfl
  | case3 char rest hchar hopen ih =>
    have hne : '}' ≠ char := fun heq => hchar heq.symm
    rw [List.flatMap_cons, toList, List.singleton_append, List.mem_cons, or_iff_right hne]
      at hclose
    rw [List.cons_append, closing, ih (Option.map_eq_none_iff.1 hnone) hclose]
    · rfl
    · exact fun h => hchar h
    · exact fun h => hopen h
  | case4 segments h1 h2 h3 =>
    cases segments with
    | nil => contradiction
    | cons segment rest =>
      cases segment with
      | literal char => exact absurd rfl (h3 char rest)
      | fragment word => rfl

theorem split_append {front : List Char} (hfront : OpeningsClosed front) (back : List Char) :
    split (front ++ back) = split front ++ split back := by
  induction front using split_induction with
  | nil => rfl
  | fragment word rest hword ih =>
    have hrest : rest <:+ '{' :: (word ++ '}' :: rest) := ⟨'{' :: (word ++ ['}']), by simp⟩
    have hchars :
        '{' :: (word ++ '}' :: rest) ++ back = '{' :: (word ++ '}' :: (rest ++ back)) := by
      simp
    rw [hchars, split_fragment_append hword, split_fragment_append hword,
      ih (hfront.of_suffix hrest)]
    rfl
  | literal char rest hsplit ih =>
    have hrest := ih (hfront.of_suffix (List.suffix_cons char rest))
    rw [hsplit, List.cons_append, List.cons_append, split, hrest]
    by_cases hopen : char = '{'
    · subst hopen
      have hclose : '}' ∈ (split rest).flatMap toList := by
        rw [flatMap_toList_split]
        exact hfront rest List.suffix_rfl
      have hnone : closing (split rest) = none := by
        rw [split, if_pos rfl] at hsplit
        split at hsplit
        · simp at hsplit
        · assumption
      simp [closing_append_of_eq_none hnone hclose]
    · simp [hopen]

theorem map_mapWord_congr {first first' second second' : String → String}
    {segments segments' : List Segment}
    (h : segments.map (mapWord first) = segments'.map (mapWord first'))
    (hword : ∀ word, fragment word ∈ segments → ∀ word', fragment word' ∈ segments' →
      first word = first' word' → second word = second' word') :
    segments.map (mapWord second) = segments'.map (mapWord second') := by
  induction segments generalizing segments' with
  | nil =>
    cases segments' with
    | nil => rfl
    | cons segment' rest' => simp at h
  | cons segment rest ih =>
    cases segments' with
    | nil => simp at h
    | cons segment' rest' =>
      simp only [List.map_cons, List.cons.injEq] at h ⊢
      refine ⟨?_, ih h.2 fun word hmem word' hmem' =>
        hword word (List.mem_cons_of_mem _ hmem) word' (List.mem_cons_of_mem _ hmem')⟩
      cases segment with
      | literal char =>
        cases segment' with
        | literal char' => exact h.1
        | fragment word' => simp [mapWord] at h
      | fragment word =>
        cases segment' with
        | literal char' => simp [mapWord] at h
        | fragment word' =>
          simp only [mapWord, fragment.injEq] at h ⊢
          exact hword word (by simp) word' (by simp) h.1

end Segment

theorem mem_fragments {text word : String} :
    word ∈ fragments text ↔ Segment.fragment word ∈ segments text := by
  constructor
  · intro h
    obtain ⟨segment, hsegment, hword⟩ := List.mem_filterMap.1 h
    cases segment with
    | literal char => contradiction
    | fragment other =>
      cases Option.some.inj hword
      exact hsegment
  · intro h
    exact List.mem_filterMap.2 ⟨_, h, rfl⟩

theorem braceFree_of_mem_fragments {text word : String} (h : word ∈ fragments text) :
    BraceFree word :=
  Segment.braceFree_of_mem_split (mem_fragments.1 h)

theorem map_fragments (rename : String → String) (text : String) :
    (fragments text).map rename =
      ((segments text).map (Segment.mapWord rename)).filterMap Segment.word? := by
  have hword : Segment.word? ∘ Segment.mapWord rename =
      fun segment => (Segment.word? segment).map rename := by
    funext segment
    cases segment <;> rfl
  rw [List.filterMap_map, hword, fragments, List.map_filterMap]

theorem toList_braced (word : String) : (braced word).toList = '{' :: (word.toList ++ ['}']) := by
  simp [braced]

theorem replaceFragments_congr {replacement replacement' : String → String} {text : String}
    (h : ∀ word ∈ fragments text, replacement word = replacement' word) :
    replaceFragments replacement text = replaceFragments replacement' text := by
  unfold replaceFragments
  congr 1
  apply List.flatMap_congr
  intro segment hsegment
  cases segment with
  | literal char => rfl
  | fragment word => exact congrArg String.toList (h word (mem_fragments.2 hsegment))

theorem segments_replaceFragments {rename : String → String} {text : String}
    (h : ∀ word ∈ fragments text, BraceFree (rename word)) :
    segments (replaceFragments (fun word => braced (rename word)) text) =
      (segments text).map (Segment.mapWord rename) := by
  have hpiece : Segment.rewrite (fun word => braced (rename word)) =
      fun segment => (segment.mapWord rename).toList := by
    funext segment
    cases segment with
    | literal char => rfl
    | fragment word => exact toList_braced (rename word)
  unfold replaceFragments segments
  rw [hpiece, String.toList_ofList]
  exact Segment.split_flatMap_mapWord fun word hword => h word (mem_fragments.2 hword)

theorem fragments_replaceFragments {rename : String → String} {text : String}
    (h : ∀ word ∈ fragments text, BraceFree (rename word)) :
    fragments (replaceFragments (fun word => braced (rename word)) text) =
      (fragments text).map rename := by
  rw [map_fragments, fragments, segments_replaceFragments h]

theorem replaceFragments_replaceFragments {rename : String → String} {text : String}
    (h : ∀ word ∈ fragments text, BraceFree (rename word)) (replacement : String → String) :
    replaceFragments replacement (replaceFragments (fun word => braced (rename word)) text) =
      replaceFragments (fun word => replacement (rename word)) text := by
  have hpiece : (fun segment : Segment =>
      (segment.mapWord rename).rewrite replacement) =
      Segment.rewrite fun word => replacement (rename word) := by
    funext segment
    cases segment <;> rfl
  rw [replaceFragments, segments_replaceFragments h, List.flatMap_map, hpiece, replaceFragments]

theorem segments_append_braced {word : String} (hword : BraceFree word) (before after : String) :
    segments (before ++ braced word ++ after) =
      segments before ++ .fragment word :: segments after := by
  have htext : (before ++ braced word ++ after).toList =
      before.toList ++ '{' :: (word.toList ++ '}' :: after.toList) := by
    simp [toList_braced]
  rw [segments, htext, Segment.split_append_fragment hword, String.ofList_toList]
  rfl

theorem replaceFragments_append_braced {word : String} (hword : BraceFree word)
    (replacement : String → String) (before after : String) :
    replaceFragments replacement (before ++ braced word ++ after) =
      replaceFragments replacement before ++ replacement word ++
        replaceFragments replacement after := by
  rw [replaceFragments, segments_append_braced hword]
  simp [replaceFragments, Segment.rewrite, String.append_assoc]

theorem replaceFragments_append {front : String} (hfront : Segment.OpeningsClosed front.toList)
    (replacement : String → String) (back : String) :
    replaceFragments replacement (front ++ back) =
      replaceFragments replacement front ++ replaceFragments replacement back := by
  simp [replaceFragments, segments, Segment.split_append hfront]

/-- An occurrence of a braced word cannot overlap with any fragment but itself. -/
theorem replaceFrom_eq_flatMap {word : String} (hword : BraceFree word) (replacement : String)
    (chars : List Char) :
    replaceFrom '{' (word.toList ++ ['}']) replacement.toList 0 chars =
      (Segment.split chars).flatMap
        (Segment.rewrite fun other => if other = word then replacement else braced other) := by
  induction chars using Segment.split_induction with
  | nil => rfl
  | fragment other rest hother ih =>
    rw [Segment.split_fragment_append hother, List.flatMap_cons, Segment.rewrite]
    by_cases heq : String.ofList other = word
    · subst heq
      rw [if_pos rfl, ← ih, String.toList_ofList]
      have hchars : other ++ '}' :: rest = (other ++ ['}']) ++ rest := by simp
      rw [hchars, replaceFrom_occurrence]
    · have hne : ¬ word.toList ++ ['}'] <+: other ++ '}' :: rest := by
        rintro ⟨after, hafter⟩
        have hclose := Segment.closing_split_append hword after
        rw [List.append_assoc, List.singleton_append] at hafter
        rw [hafter, Segment.closing_split_append hother] at hclose
        apply heq
        rw [(Prod.mk.inj (Option.some.inj hclose)).1, String.ofList_toList]
      have hopen : '{' ∉ other ++ ['}'] := by
        intro hmem
        rcases List.mem_append.1 hmem with hmem | hmem
        · exact absurd (hother _ hmem) (by decide)
        · simp at hmem
      have hchars : other ++ '}' :: rest = (other ++ ['}']) ++ rest := by simp
      rw [if_neg heq, replaceFrom, if_neg fun h => hne h.2, hchars,
        replaceFrom_append_of_not_mem hopen, ih, toList_braced, String.toList_ofList]
      rfl
  | literal char rest hsplit ih =>
    have hne : ¬ (char = '{' ∧ word.toList ++ ['}'] <+: rest) := by
      rintro ⟨rfl, after, rfl⟩
      rw [List.append_assoc, List.singleton_append, Segment.split_fragment_append hword]
        at hsplit
      simp at hsplit
    rw [hsplit, List.flatMap_cons, replaceFrom, if_neg hne, ih]
    rfl

end Phrasebook
