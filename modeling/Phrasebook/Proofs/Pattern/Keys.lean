import Mathlib.Algebra.BigOperators.Group.List.Basic
import Mathlib.Data.List.Sections
import Mathlib.Data.Multiset.Bind
import Phrasebook.Proofs.Pattern.Reading

/-!
The keys of a pattern as a family. The keys are made by replacing one word after the other in texts
that already have tags in them. If no category name has a brace in it this yields what replacing
all words at once does, for each choice of a category for each word (`coe_keys_eq_map_keyFor`).
-/
namespace Phrasebook.Pattern

/-- The word that stands between the braces after a category was chosen for the given ones. -/
def wordFor (chosen : List ((String × Placeholder) × Category)) (word : String) : String :=
  match chosen.find? (·.1.1 == word) with
  | some ((_, placeholder), category) => placeholder.tagWord category.name
  | none => word

/-- The source with tags in the place of all words at once. The choice has one category for each
placeholder, in their order. -/
def keyFor (pattern : Pattern) (choice : List Category) : String :=
  replaceFragments (fun word => braced (wordFor (pattern.placeholders.zip choice) word))
    pattern.source

def choices (places : List (String × Placeholder)) : List (List Category) :=
  (places.map (·.2.domain.categories)).sections

@[simp] theorem wordFor_nil : wordFor [] = id :=
  rfl

theorem wordFor_cons_self (place : String × Placeholder) (category : Category)
    (chosen : List ((String × Placeholder) × Category)) :
    wordFor ((place, category) :: chosen) place.1 = place.2.tagWord category.name := by
  simp [wordFor]

theorem wordFor_cons_of_ne {place : String × Placeholder} {word : String} (h : place.1 ≠ word)
    (category : Category) (chosen : List ((String × Placeholder) × Category)) :
    wordFor ((place, category) :: chosen) word = wordFor chosen word := by
  simp [wordFor, h]

theorem wordFor_eq_self {chosen : List ((String × Placeholder) × Category)} {word : String}
    (h : ∀ pair ∈ chosen, pair.1.1 ≠ word) : wordFor chosen word = word := by
  have hnone : chosen.find? (·.1.1 == word) = none := by
    rw [List.find?_eq_none]
    intro pair hpair
    simpa using h pair hpair
  simp [wordFor, hnone]

theorem replaceWord_eq_replaceFragments {word : String} (hword : BraceFree word)
    (replacement text : String) :
    replaceWord word replacement text =
      replaceFragments (fun other => if other = word then replacement else braced other) text := by
  rw [replaceWord, replaceFrom_eq_flatMap hword]
  rfl

def rename (word newWord other : String) : String :=
  if other = word then newWord else other

theorem rename_self (word newWord : String) : rename word newWord word = newWord :=
  if_pos rfl

theorem rename_of_ne {word other : String} (h : other ≠ word) (newWord : String) :
    rename word newWord other = other :=
  if_neg h

theorem braceFree_rename {newWord other : String} (hnew : BraceFree newWord)
    (hother : BraceFree other) (word : String) : BraceFree (rename word newWord other) := by
  unfold rename
  split
  · exact hnew
  · exact hother

theorem replaceWord_braced {word : String} (hword : BraceFree word) (newWord text : String) :
    replaceWord word (braced newWord) text =
      replaceFragments (fun other => braced (rename word newWord other)) text := by
  rw [replaceWord_eq_replaceFragments hword]
  apply replaceFragments_congr
  intro other _
  unfold rename
  split <;> rfl

theorem replaceFragments_replaceWord {word newWord : String} (hword : BraceFree word)
    (hnew : BraceFree newWord) (replacement : String → String) (text : String) :
    replaceFragments replacement (replaceWord word (braced newWord) text) =
      replaceFragments (fun other => replacement (rename word newWord other)) text := by
  rw [replaceWord_braced hword]
  apply replaceFragments_replaceFragments
  intro other hother
  exact braceFree_rename hnew (braceFree_of_mem_fragments hother) word

theorem rename_comm {word word' newWord newWord' : String} (hne : word ≠ word')
    (hnew : newWord ≠ word') (hnew' : newWord' ≠ word) (other : String) :
    rename word' newWord' (rename word newWord other) =
      rename word newWord (rename word' newWord' other) := by
  by_cases hfirst : other = word
  · rw [hfirst, rename_self, rename_of_ne hnew, rename_of_ne hne, rename_self]
  · by_cases hsecond : other = word'
    · rw [hsecond, rename_of_ne (Ne.symm hne), rename_self, rename_of_ne hnew']
    · rw [rename_of_ne hfirst, rename_of_ne hsecond, rename_of_ne hfirst]

theorem replaceWord_append_tag {word : String} {placeholder : Placeholder} {category : String}
    (hword : BraceFree word) (htag : BraceFree (placeholder.tagWord category))
    (hne : placeholder.tagWord category ≠ word) (replacement before after : String) :
    replaceWord word replacement (before ++ placeholder.tag category ++ after) =
      replaceWord word replacement before ++ placeholder.tag category ++
        replaceWord word replacement after := by
  rw [Placeholder.tag_eq_braced]
  simp only [replaceWord_eq_replaceFragments hword, replaceFragments_append_braced htag,
    if_neg hne]

def branches (texts : Multiset String) (place : String × Placeholder) : Multiset String :=
  texts.bind fun text => (place.2.tags : Multiset String).map fun tag =>
    replaceWord place.1 tag text

theorem coe_foldl_branch (places : List (String × Placeholder)) (start : List String) :
    ((places.foldl (fun keys (word, placeholder) => branch keys word placeholder) start :
      List String) : Multiset String) = places.foldl branches start := by
  induction places generalizing start with
  | nil => rfl
  | cons place places ih =>
    have hbranch : ((branch start place.1 place.2 : List String) : Multiset String) =
        branches start place := by
      unfold branch branches
      rw [← Multiset.coe_bind]
      rfl
    rw [List.foldl_cons, List.foldl_cons, ih, hbranch]

theorem foldl_branches_eq_bind (places : List (String × Placeholder)) (texts : Multiset String) :
    places.foldl branches texts = texts.bind fun text => places.foldl branches {text} := by
  induction places generalizing texts with
  | nil =>
    have hself : (texts.bind fun text => {text}) = texts.map id :=
      Multiset.bind_singleton texts id
    exact (hself.trans (Multiset.map_id texts)).symm
  | cons place places ih =>
    rw [List.foldl_cons, ih, branches, Multiset.bind_assoc]
    apply Multiset.bind_congr
    intro text _
    rw [List.foldl_cons, ih (branches {text} place), branches, Multiset.singleton_bind]

theorem coe_choices_cons (place : String × Placeholder) (places : List (String × Placeholder)) :
    (choices (place :: places) : Multiset (List Category)) =
      (place.2.domain.categories : Multiset Category).bind fun category =>
        (choices places : Multiset (List Category)).map (category :: ·) := by
  rw [Multiset.bind_map_comm, choices, List.map_cons, List.sections, ← Multiset.coe_bind]
  rfl

namespace Independent

variable {place : String × Placeholder} {places : List (String × Placeholder)}

/-- Replacing one word and then the others at once is replacing all at once. -/
theorem replaceFragments_tag (h : Independent (place :: places)) {category : Category}
    (hcategory : category ∈ place.2.domain.categories) (choice : List Category) (text : String) :
    replaceFragments (fun word => braced (wordFor (places.zip choice) word))
        (replaceWord place.1 (place.2.tag category.name) text) =
      replaceFragments
        (fun word => braced (wordFor ((place :: places).zip (category :: choice)) word)) text := by
  have hlater : wordFor (places.zip choice) (place.2.tagWord category.name) =
      place.2.tagWord category.name := by
    apply wordFor_eq_self
    intro pair hpair heq
    have hmem : pair.1 ∈ places := (List.of_mem_zip hpair).1
    exact h.tagWord_ne pair.1 (List.mem_cons_of_mem _ hmem) place.2 category.name heq.symm
  rw [Placeholder.tag_eq_braced, replaceFragments_replaceWord
    (h.braceFree_word place (by simp)) (h.braceFree_tagWord place (by simp) category hcategory)]
  apply replaceFragments_congr
  intro word _
  rw [List.zip_cons_cons]
  by_cases heq : word = place.1
  · rw [heq, rename_self, hlater, wordFor_cons_self]
  · rw [rename_of_ne heq, wordFor_cons_of_ne (Ne.symm heq)]

theorem foldl_branches_eq_map (h : Independent places) (text : String) :
    places.foldl branches {text} = (choices places : Multiset (List Category)).map fun choice =>
      replaceFragments (fun word => braced (wordFor (places.zip choice) word)) text := by
  induction places generalizing text with
  | nil => simp [choices]
  | cons place places ih =>
    have hbranches : branches {text} place =
        (place.2.domain.categories : Multiset Category).map fun category =>
          replaceWord place.1 (place.2.tag category.name) text := by
      rw [branches, Multiset.singleton_bind, Placeholder.tags, Multiset.map_coe, List.map_map]
      rfl
    rw [List.foldl_cons, foldl_branches_eq_bind, hbranches, Multiset.bind_map, coe_choices_cons,
      Multiset.map_bind]
    apply Multiset.bind_congr
    intro category hcategory
    rw [ih h.tail, Multiset.map_map]
    apply Multiset.map_congr rfl
    intro choice _
    exact h.replaceFragments_tag (Multiset.mem_coe.1 hcategory) choice text

theorem replaceWord_comm (h : Independent places) {first second : String × Placeholder}
    (hfirst : first ∈ places) (hsecond : second ∈ places) (hne : first.1 ≠ second.1)
    {category category' : Category} (hcategory : category ∈ first.2.domain.categories)
    (hcategory' : category' ∈ second.2.domain.categories) (text : String) :
    replaceWord second.1 (second.2.tag category'.name)
        (replaceWord first.1 (first.2.tag category.name) text) =
      replaceWord first.1 (first.2.tag category.name)
        (replaceWord second.1 (second.2.tag category'.name) text) := by
  have hword := h.braceFree_word first hfirst
  have hword' := h.braceFree_word second hsecond
  have htag := h.braceFree_tagWord first hfirst category hcategory
  have htag' := h.braceFree_tagWord second hsecond category' hcategory'
  simp only [Placeholder.tag_eq_braced]
  rw [replaceWord_braced hword', replaceFragments_replaceWord hword htag,
    replaceWord_braced hword, replaceFragments_replaceWord hword' htag']
  apply replaceFragments_congr
  intro other _
  rw [rename_comm hne (h.tagWord_ne second hsecond first.2 category.name)
    (h.tagWord_ne first hfirst second.2 category'.name)]

theorem branches_comm (h : Independent places) {first second : String × Placeholder}
    (hfirst : first ∈ places) (hsecond : second ∈ places) (texts : Multiset String) :
    branches (branches texts first) second = branches (branches texts second) first := by
  by_cases heq : first = second
  · rw [heq]
  · have hne : first.1 ≠ second.1 := fun hword =>
      heq (List.inj_on_of_nodup_map h.nodup hfirst hsecond hword)
    simp only [branches, Multiset.bind_assoc, Multiset.bind_map]
    apply Multiset.bind_congr
    intro text _
    rw [Multiset.bind_map_comm]
    apply Multiset.bind_congr
    intro tag' htag'
    apply Multiset.map_congr rfl
    intro tag htag
    obtain ⟨category, hcategory, rfl⟩ := List.mem_map.1 (Multiset.mem_coe.1 htag)
    obtain ⟨category', hcategory', rfl⟩ := List.mem_map.1 (Multiset.mem_coe.1 htag')
    exact h.replaceWord_comm hfirst hsecond hne hcategory hcategory' text

end Independent

theorem coe_keys (pattern : Pattern) :
    (pattern.keys : Multiset String) = pattern.placeholders.foldl branches {pattern.source} :=
  coe_foldl_branch pattern.placeholders [pattern.source]

theorem coe_keys_eq_map_keyFor {pattern : Pattern} (h : Independent pattern.placeholders) :
    (pattern.keys : Multiset String) =
      (choices pattern.placeholders : Multiset (List Category)).map pattern.keyFor := by
  rw [coe_keys]
  exact h.foldl_branches_eq_map pattern.source

theorem keys_perm_of_perm {pattern : Pattern} (h : Independent pattern.placeholders)
    {order : List (String × Placeholder)} (horder : order.Perm pattern.placeholders) :
    { pattern with placeholders := order }.keys.Perm pattern.keys := by
  rw [← Multiset.coe_eq_coe, coe_keys, coe_keys]
  apply horder.foldl_eq'
  intro first hfirst second hsecond texts
  exact h.branches_comm (horder.mem_iff.1 hfirst) (horder.mem_iff.1 hsecond) texts

theorem length_foldl_branch (places : List (String × Placeholder)) (start : List String) :
    (places.foldl (fun keys (word, placeholder) => branch keys word placeholder) start).length =
      start.length * (places.map (·.2.domain.categories.length)).prod := by
  induction places generalizing start with
  | nil => simp
  | cons place places ih =>
    have hbranch : (branch start place.1 place.2).length =
        start.length * place.2.domain.categories.length := by
      simp [branch, List.length_flatMap, Placeholder.tags, List.map_const']
    rw [List.foldl_cons, ih, hbranch, List.map_cons, List.prod_cons, Nat.mul_assoc]

theorem nodup_sections {α : Type} {lists : List (List α)} (h : ∀ list ∈ lists, list.Nodup) :
    lists.sections.Nodup := by
  induction lists with
  | nil => simp
  | cons list lists ih =>
    rw [List.sections, List.nodup_flatMap]
    refine ⟨?_, ?_⟩
    · intro choice _
      exact (h list (by simp)).map fun first second heq => (List.cons.inj heq).1
    · apply (ih fun other hother => h other (List.mem_cons_of_mem _ hother)).imp
      intro choice choice' hne
      apply List.disjoint_left.2
      intro joined hfirst hsecond
      obtain ⟨first, -, rfl⟩ := List.mem_map.1 hfirst
      obtain ⟨second, -, heq⟩ := List.mem_map.1 hsecond
      exact hne (List.cons.inj heq).2.symm

theorem choice_eq_of_wordFor_eq {places : List (String × Placeholder)}
    (hwords : (places.map Prod.fst).Nodup)
    (hnames : ∀ place ∈ places, (place.2.domain.categories.map (·.name)).Nodup)
    {choice choice' : List Category} (hchoice : choice ∈ choices places)
    (hchoice' : choice' ∈ choices places)
    (h : ∀ place ∈ places, wordFor (places.zip choice) place.1 =
      wordFor (places.zip choice') place.1) : choice = choice' := by
  induction places generalizing choice choice' with
  | nil =>
    simp only [choices, List.map_nil, List.sections, List.mem_singleton] at hchoice hchoice'
    rw [hchoice, hchoice']
  | cons place places ih =>
    rw [choices, List.map_cons, List.mem_sections] at hchoice hchoice'
    cases hchoice with
    | @cons category _ choice _ hcategory hrest =>
      cases hchoice' with
      | @cons category' _ choice' _ hcategory' hrest' =>
        simp only [List.zip_cons_cons] at h
        have hhead := h place (by simp)
        rw [wordFor_cons_self, wordFor_cons_self] at hhead
        have hname : category.name = category'.name := by
          simpa [Placeholder.tagWord, String.append_assoc] using hhead
        have hcategories : category = category' :=
          List.inj_on_of_nodup_map (hnames place (by simp)) hcategory hcategory' hname
        have htail : choice = choice' := by
          apply ih (List.nodup_cons.1 hwords).2
            (fun other hother => hnames other (List.mem_cons_of_mem _ hother))
            (List.mem_sections.2 hrest) (List.mem_sections.2 hrest')
          intro other hother
          have hne : place.1 ≠ other.1 := by
            intro heq
            apply (List.nodup_cons.1 hwords).1
            rw [heq]
            exact List.mem_map_of_mem hother
          have hother := h other (List.mem_cons_of_mem _ hother)
          rwa [wordFor_cons_of_ne hne, wordFor_cons_of_ne hne] at hother
        rw [hcategories, htail]

theorem mem_categories_of_mem_zip {places : List (String × Placeholder)} {choice : List Category}
    (hchoice : choice ∈ choices places) {place : String × Placeholder} {category : Category}
    (h : (place, category) ∈ places.zip choice) : category ∈ place.2.domain.categories := by
  rw [choices, List.mem_sections, List.forall₂_map_right_iff] at hchoice
  exact (List.forall₂_iff_zip.1 hchoice.flip).2 h

theorem Independent.braceFree_wordFor {places : List (String × Placeholder)}
    (h : Independent places) {choice : List Category} (hchoice : choice ∈ choices places)
    {word : String} (hword : BraceFree word) : BraceFree (wordFor (places.zip choice) word) := by
  unfold wordFor
  split
  · next place placeholder category hfound =>
    have hmem := List.mem_of_find?_eq_some hfound
    exact h.braceFree_tagWord _ (List.of_mem_zip hmem).1 category
      (mem_categories_of_mem_zip hchoice hmem)
  · exact hword

theorem segments_keyFor {pattern : Pattern} (h : Independent pattern.placeholders)
    {choice : List Category} (hchoice : choice ∈ choices pattern.placeholders) :
    segments (pattern.keyFor choice) =
      (segments pattern.source).map
        (Segment.mapWord (wordFor (pattern.placeholders.zip choice))) := by
  apply segments_replaceFragments
  intro word hword
  exact h.braceFree_wordFor hchoice (braceFree_of_mem_fragments hword)

theorem nodup_keys {pattern : Pattern} (h : Independent pattern.placeholders)
    (hwords : ∀ place ∈ pattern.placeholders, place.1 ∈ fragments pattern.source)
    (hnames : ∀ place ∈ pattern.placeholders,
      (place.2.domain.categories.map (·.name)).Nodup) : pattern.keys.Nodup := by
  rw [← Multiset.coe_nodup, coe_keys_eq_map_keyFor h, Multiset.map_coe, Multiset.coe_nodup]
  have hchoices : (choices pattern.placeholders).Nodup := by
    apply nodup_sections
    intro categories hcategories
    obtain ⟨place, hplace, rfl⟩ := List.mem_map.1 hcategories
    exact (hnames place hplace).of_map
  apply List.Nodup.map_on _ hchoices
  intro choice hchoice choice' hchoice' heq
  apply choice_eq_of_wordFor_eq h.nodup hnames hchoice hchoice'
  intro place hplace
  have hsegments := congrArg segments heq
  rw [segments_keyFor h hchoice, segments_keyFor h hchoice'] at hsegments
  have hword := List.map_inj_left.1 hsegments _ (mem_fragments.1 (hwords place hplace))
  simpa [Segment.mapWord] using hword

/-- The keys are the texts that come from the source by putting a tag in the place of every
fragment at once, one for each choice of a category for each distinct word. -/
theorem keys_perm_map_keyFor {languages : Languages} {code source : String} {pattern : Pattern}
    (hlanguages : languages.CategoriesBraceFree)
    (hparse : parse languages code source = .ok pattern) :
    (pattern.source = source ∧ (pattern.placeholders.map Prod.fst).Nodup ∧
        ∀ word, word ∈ pattern.placeholders.map Prod.fst ↔ word ∈ fragments source) ∧
      pattern.keys.Perm ((choices pattern.placeholders).map pattern.keyFor) ∧
      pattern.keys.length =
        (pattern.placeholders.map (·.2.domain.categories.length)).prod ∧
      (∀ order : List (String × Placeholder), order.Perm pattern.placeholders →
        { pattern with placeholders := order }.keys.Perm pattern.keys) ∧
      (∀ place ∈ pattern.placeholders, ∀ category ∈ place.2.domain.categories,
        ∀ later ∈ pattern.placeholders, ∀ replacement before after,
          replaceWord later.1 replacement (before ++ place.2.tag category.name ++ after) =
            replaceWord later.1 replacement before ++ place.2.tag category.name ++
              replaceWord later.1 replacement after) ∧
      ((∀ place ∈ pattern.placeholders, (place.2.domain.categories.map (·.name)).Nodup) →
        pattern.keys.Nodup) := by
  have parsed := parsed_of_parse hparse
  have h := parsed.independent hlanguages
  refine ⟨⟨parsed.source_eq, h.nodup, fun word => parsed.mem_words⟩, ?_, ?_, ?_, ?_, ?_⟩
  · rw [← Multiset.coe_eq_coe, coe_keys_eq_map_keyFor h, Multiset.map_coe]
  · rw [keys, length_foldl_branch, List.length_singleton, Nat.one_mul]
  · intro order horder
    exact keys_perm_of_perm h horder
  · intro place hplace category hcategory later hlater replacement before after
    exact replaceWord_append_tag (h.braceFree_word later hlater)
      (h.braceFree_tagWord place hplace category hcategory)
      (h.tagWord_ne later hlater place.2 category.name) replacement before after
  · intro hnames
    apply nodup_keys h _ hnames
    intro place hplace
    rw [parsed.source_eq, ← parsed.mem_words]
    exact List.mem_map_of_mem hplace

theorem keys_perm_map_keyFor_german :
    (Languages.ofLanguages Standard.languages).CategoriesBraceFree ∧
      ∃ pattern, parse (Languages.ofLanguages Standard.languages) "de"
          ("\x7d" ++ braced "number(n)" ++ braced "gender(g)" ++ "\x7b" ++ braced "number(n)") =
          .ok pattern ∧
        pattern.keys.Perm ((choices pattern.placeholders).map pattern.keyFor) ∧
        pattern.keys.length = 6 ∧ pattern.keys.Nodup := by
  have hparse : ∃ pattern, parse (Languages.ofLanguages Standard.languages) "de"
      ("\x7d" ++ braced "number(n)" ++ braced "gender(g)" ++ "\x7b" ++ braced "number(n)") =
        .ok pattern ∧ pattern.keys.length = 6 ∧
      ∀ place ∈ pattern.placeholders, (place.2.domain.categories.map (·.name)).Nodup :=
    ⟨_, rfl, rfl, by decide⟩
  obtain ⟨pattern, hparse, hlength, hnames⟩ := hparse
  obtain ⟨-, hperm, -, -, -, hnodup⟩ :=
    keys_perm_map_keyFor Languages.categoriesBraceFree_standard hparse
  exact ⟨Languages.categoriesBraceFree_standard, pattern, hparse, hperm, hlength, hnodup hnames⟩

end Phrasebook.Pattern
