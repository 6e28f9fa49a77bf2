import Phrasebook.Catalog.Validation
import Phrasebook.Proofs.Pattern.Filling
import Phrasebook.Proofs.Pattern.Identity

/-!
Translated texts without findings. The names that the validation reads in a key are those of the
placeholders (`Pattern.Parsed.mem_keyNames_keyFor`), so a text without findings names exactly these.
What rendering puts in for its fragments is narrower: a bare name, and a tag that the key has
(`render_of_no_findings`). Other fragments pass the validation and stay as they are, and a bare name
stands for one of the placeholders that share it (`clean_text_may_drop_a_value`).
-/
namespace Phrasebook

theorem nestedApplication?_append {outer middle inner : String} (houter : outer ≠ "")
    (houterPlain : isPlain outer = true) (hmiddle : middle ≠ "")
    (hmiddlePlain : isPlain middle = true) (hinner : inner ≠ "")
    (hinnerPlain : isPlain inner = true) :
    nestedApplication? (outer.toList ++
      '(' :: (middle.toList ++ '(' :: (inner.toList ++ [')', ')']))) =
        some (outer, middle, inner) := by
  have hcons {text : String} (htext : text ≠ "") : ∃ char chars, text.toList = char :: chars :=
    List.exists_cons_of_ne_nil fun hnil => htext (String.toList_inj.1 hnil)
  obtain ⟨_, _, houterChars⟩ := hcons houter
  obtain ⟨_, _, hmiddleChars⟩ := hcons hmiddle
  obtain ⟨_, _, hinnerChars⟩ := hcons hinner
  have hend : plainRun (inner.toList ++ [')', ')']) = (inner.toList, [')', ')']) :=
    plainRun_append (isPlain_iff.1 hinnerPlain) rfl [')']
  rw [nestedApplication?, plainRun_append (isPlain_iff.1 houterPlain) rfl, houterChars]
  simp only
  rw [plainRun_append (isPlain_iff.1 hmiddlePlain) rfl, hmiddleChars]
  simp only
  rw [hend, hinnerChars]
  simp only
  rw [← houterChars, ← hmiddleChars, ← hinnerChars]
  simp only [String.ofList_toList]

theorem nestedApplication?_eq_some {chars : List Char} {outer middle inner : String}
    (h : nestedApplication? chars = some (outer, middle, inner)) :
    chars = outer.toList ++ '(' :: (middle.toList ++ '(' :: (inner.toList ++ [')', ')'])) ∧
      (outer ≠ "" ∧ isPlain outer = true) ∧ isPlain middle = true ∧ isPlain inner = true := by
  unfold nestedApplication? at h
  split at h
  · contradiction
  · next front rest hne hfront =>
    split at h
    · contradiction
    · next center rest' _ hcenter =>
      split at h
      · contradiction
      · next back _ hback =>
        cases h
        obtain ⟨rfl, houter⟩ := eq_of_plainRun_eq hfront
        obtain ⟨rfl, hmiddle⟩ := eq_of_plainRun_eq hcenter
        obtain ⟨rfl, hinner⟩ := eq_of_plainRun_eq hback
        exact ⟨by simp, ⟨fun hempty => hne (String.ofList_eq_empty_iff.1 hempty), houter⟩,
          hmiddle, hinner⟩
      · contradiction
    · contradiction
  · contradiction

def Languages.CategoriesPlain (languages : Languages) : Prop :=
  ∀ language, languages.Knows language →
    ∀ domain ∈ language.domains, ∀ category ∈ domain.categories,
      category.name ≠ "" ∧ isPlain category.name = true

theorem Languages.CategoriesPlain.braceFree {languages : Languages}
    (h : languages.CategoriesPlain) : languages.CategoriesBraceFree :=
  fun language hknown domain hdomain category hcategory =>
    braceFree_of_isPlain (h language hknown domain hdomain category hcategory).2

theorem Languages.categoriesPlain_ofLanguages {added : List Language}
    (h : ∀ language ∈ added, ∀ domain ∈ language.domains, ∀ category ∈ domain.categories,
      category.name ≠ "" ∧ isPlain category.name = true) :
    (ofLanguages added).CategoriesPlain := by
  rintro language ⟨code, hknown⟩
  rcases getElem?_foldl_add hknown with hmem | hempty
  · exact h language hmem
  · simp at hempty

theorem Languages.categoriesPlain_standard :
    (ofLanguages Standard.languages).CategoriesPlain :=
  categoriesPlain_ofLanguages (by decide)

theorem bareName?_eq_some {word name : String} :
    bareName? word = some name ↔ word = name ∧ name ≠ "" ∧ isPlain name = true := by
  unfold bareName?
  split
  · next h =>
    rw [Option.some.injEq]
    exact ⟨fun heq => ⟨heq, heq ▸ h⟩, fun heq => heq.1⟩
  · next h =>
    refine ⟨fun hnone => absurd hnone (by simp), ?_⟩
    rintro ⟨rfl, hname⟩
    exact absurd hname h

namespace Placeholder

theorem tagName?_tagWord {placeholder : Placeholder} {category : String}
    (hcategory : category ≠ "") (hcategoryPlain : isPlain category = true)
    (hname : placeholder.name ≠ "") (hnamePlain : isPlain placeholder.name = true) :
    tagName? (placeholder.tagWord category) = some placeholder.name := by
  rw [tagName?, toList_tagWord, nestedApplication?_append hcategory hcategoryPlain
    placeholder.domain.name_ne_empty placeholder.domain.isPlain_name hname hnamePlain]
  rfl

namespace Reads

variable {languages : Languages} {word : String} {placeholder : Placeholder}

theorem plain_category (reads : Reads languages word placeholder)
    (hlanguages : languages.CategoriesPlain) {category : Category}
    (hcategory : category ∈ placeholder.domain.categories) :
    category.name ≠ "" ∧ isPlain category.name = true := by
  obtain ⟨language, hknown, hdomain⟩ := reads.known
  exact hlanguages language hknown placeholder.domain hdomain category hcategory

theorem tagName?_tagWord (reads : Reads languages word placeholder)
    (hlanguages : languages.CategoriesPlain) {category : Category}
    (hcategory : category ∈ placeholder.domain.categories) :
    tagName? (placeholder.tagWord category.name) = some placeholder.name := by
  obtain ⟨hne, hplain⟩ := reads.plain_category hlanguages hcategory
  exact Placeholder.tagName?_tagWord hne hplain reads.name_ne_empty reads.isPlain_name

end Reads

end Placeholder

theorem validate_eq_nil_iff {key text : String} :
    validate key text = [] ↔ bracesPairUp false text.toList = true ∧
      ∀ name, name ∈ textNames text ↔ name ∈ keyNames key := by
  unfold validate
  split
  · next hpair =>
    simp only [List.append_eq_nil_iff, ite_eq_left_iff, List.cons_ne_nil, imp_false,
      Bool.not_eq_true, List.isEmpty_iff, List.filter_eq_nil_iff, hpair,
      true_and, Bool.not_eq_false', List.contains_iff_mem, not_not]
    exact ⟨fun h name => ⟨h.1 name, h.2 name⟩, fun h => ⟨fun name => (h name).1,
      fun name => (h name).2⟩⟩
  · next hpair => simp [hpair]

theorem mem_textNames {text name : String} :
    name ∈ textNames text ↔ ∃ word ∈ fragments text,
      bareName? word = some name ∨ tagName? word = some name := by
  simp only [textNames, keyNames, mem_sortedDistinct, List.mem_append, List.mem_filterMap]
  grind

theorem mem_keyNames {text name : String} :
    name ∈ keyNames text ↔ ∃ word ∈ fragments text, tagName? word = some name := by
  simp [keyNames]

namespace Pattern

/-- The value of this placeholder, in the way of its domain, is put in for the word. -/
def Inserts (pattern : Pattern) (values : Values) (word : String) (placeholder : Placeholder) :
    Prop :=
  ∃ value, values[placeholder.name]? = some value ∧
    pattern.inserted? values word = some (placeholder.domain.format value)

/-- Some fragment of the text shows the value given for the name of the placeholder, in the way of
its own domain if no other domain shares the name. -/
def Shows (pattern : Pattern) (values : Values) (template : String) (placeholder : Placeholder) :
    Prop :=
  ∃ word ∈ fragments template, ∃ shown ∈ pattern.placeholders,
    shown.2.name = placeholder.name ∧ pattern.Inserts values word shown.2 ∧
      ((∀ other ∈ pattern.placeholders, other.2.name = placeholder.name →
          other.2.domain.name = placeholder.domain.name) →
        pattern.Inserts values word placeholder)

namespace Parsed

variable {languages : Languages} {code source : String} {pattern : Pattern} {values : Values}
  {choice : List Category}

theorem fragments_keyFor (parsed : Parsed languages code source pattern)
    (hlanguages : languages.CategoriesBraceFree)
    (hchoice : choice ∈ choices pattern.placeholders) :
    fragments (pattern.keyFor choice) =
      (fragments source).map (wordFor (pattern.placeholders.zip choice)) := by
  rw [keyFor, parsed.source_eq]
  apply fragments_replaceFragments
  intro word hword
  exact (parsed.independent hlanguages).braceFree_wordFor hchoice (braceFree_of_mem_fragments hword)

theorem mem_fragments_keyFor (parsed : Parsed languages code source pattern)
    (hlanguages : languages.CategoriesBraceFree)
    (hchoice : choice ∈ choices pattern.placeholders) {word : String} :
    word ∈ fragments (pattern.keyFor choice) ↔
      ∃ place ∈ pattern.placeholders,
        wordFor (pattern.placeholders.zip choice) place.1 = word := by
  simp only [parsed.fragments_keyFor hlanguages hchoice, List.mem_map, ← parsed.mem_words]
  constructor
  · rintro ⟨_, ⟨place, hplace, rfl⟩, hword⟩
    exact ⟨place, hplace, hword⟩
  · rintro ⟨place, hplace, hword⟩
    exact ⟨_, ⟨place, hplace, rfl⟩, hword⟩

theorem tagName?_wordFor (parsed : Parsed languages code source pattern)
    (hlanguages : languages.CategoriesPlain) (hchoice : choice ∈ choices pattern.placeholders)
    {place : String × Placeholder} (hplace : place ∈ pattern.placeholders) :
    tagName? (wordFor (pattern.placeholders.zip choice) place.1) = some place.2.name := by
  obtain ⟨other, hother, hword, category, hcategory, htag⟩ :=
    exists_wordFor_eq hchoice (List.mem_map_of_mem hplace)
  obtain rfl := List.inj_on_of_nodup_map parsed.nodup_words hother hplace hword
  rw [htag, (parsed.reads hother).tagName?_tagWord hlanguages hcategory]

theorem mem_keyNames_keyFor (parsed : Parsed languages code source pattern)
    (hlanguages : languages.CategoriesPlain) (hchoice : choice ∈ choices pattern.placeholders)
    {name : String} :
    name ∈ keyNames (pattern.keyFor choice) ↔
      ∃ place ∈ pattern.placeholders, place.2.name = name := by
  simp only [mem_keyNames, parsed.mem_fragments_keyFor hlanguages.braceFree hchoice]
  constructor
  · rintro ⟨_, ⟨place, hplace, rfl⟩, hname⟩
    rw [parsed.tagName?_wordFor hlanguages hchoice hplace, Option.some.injEq] at hname
    exact ⟨place, hplace, hname⟩
  · rintro ⟨place, hplace, rfl⟩
    exact ⟨_, ⟨place, hplace, rfl⟩, parsed.tagName?_wordFor hlanguages hchoice hplace⟩

theorem exists_inserts_name (parsed : Parsed languages code source pattern)
    (hchoice : SelectsAll values pattern.placeholders choice)
    {place : String × Placeholder} (hplace : place ∈ pattern.placeholders) :
    ∃ first ∈ pattern.placeholders, first.2.name = place.2.name ∧
      pattern.Inserts values place.2.name first.2 := by
  obtain ⟨value, category, hselects, -⟩ := hchoice.exists_wordFor parsed.nodup_words hplace
  have hplain := (parsed.reads hplace).isPlain_name
  cases hfound : pattern.placeholders.find? (·.2.name == place.2.name) with
  | none => simpa using List.find?_eq_none.1 hfound place hplace
  | some first =>
    have hname : first.2.name = place.2.name := by
      simpa using List.find?_some hfound
    refine ⟨first, List.mem_of_find?_eq_some hfound, hname, value, ?_, ?_⟩
    · rw [hname, hselects.1]
    · rw [inserted?_of_isPlain hplain, hfound, hselects.1]
      rfl

theorem inserted?_eq_none (parsed : Parsed languages code source pattern)
    (hlanguages : languages.CategoriesPlain) {word : String} (hbare : bareName? word = none)
    (htag : tagName? word = none) (values : Values) : pattern.inserted? values word = none := by
  rw [inserted?_eq_none_iff]
  intro place hplace hanswers
  have reads := parsed.reads hplace
  cases hanswers with
  | name =>
    rw [bareName?_eq_some.2 ⟨rfl, reads.name_ne_empty, reads.isPlain_name⟩] at hbare
    contradiction
  | tag hselects heq =>
    rw [Placeholder.tag_eq_braced, braced_inj] at heq
    rw [heq, reads.tagName?_tagWord hlanguages hselects.mem_categories] at htag
    contradiction

theorem exists_inserts_of_mem_key (parsed : Parsed languages code source pattern)
    (hlanguages : languages.CategoriesPlain)
    (hchoice : SelectsAll values pattern.placeholders choice) {word : String}
    (hword : word ∈ fragments (pattern.keyFor choice)) :
    ∃ place ∈ pattern.placeholders, tagName? word = some place.2.name ∧
      pattern.Inserts values word place.2 := by
  obtain ⟨place, hplace, rfl⟩ :=
    (parsed.mem_fragments_keyFor hlanguages.braceFree hchoice.mem_choices).1 hword
  obtain ⟨value, category, hselects, htag⟩ := hchoice.exists_wordFor parsed.nodup_words hplace
  refine ⟨place, hplace, parsed.tagName?_wordFor hlanguages hchoice.mem_choices hplace, value,
    hselects.1, ?_⟩
  rw [htag]
  exact parsed.inserted?_tagWord hplace hselects

theorem shows_of_inserts (parsed : Parsed languages code source pattern)
    {place shown : String × Placeholder} (hplace : place ∈ pattern.placeholders)
    (hshown : shown ∈ pattern.placeholders) (hname : shown.2.name = place.2.name)
    {template word : String} (hword : word ∈ fragments template)
    (h : pattern.Inserts values word shown.2) : pattern.Shows values template place.2 := by
  refine ⟨word, hword, shown, hshown, hname, h, fun hdomains => ?_⟩
  obtain ⟨value, hvalue, hinserted⟩ := h
  refine ⟨value, hname ▸ hvalue, ?_⟩
  rw [hinserted, parsed.domain_eq hshown hplace (hdomains shown hshown hname)]

end Parsed

/-- What a text without findings puts in: for each bare name and each tag of the key, the value of
a placeholder of that name; nothing for what is neither a bare name nor of the form of a tag; and
the value of every placeholder, unless the text has a tag of its name that the key does not have. -/
theorem render_of_no_findings {languages : Languages} {code source : String} {pattern : Pattern}
    {values : Values} {key template : String} (hlanguages : languages.CategoriesPlain)
    (hparse : parse languages code source = .ok pattern)
    (hkey : pattern.lookupKey values = .ok key) (hclean : validate key template = [])
    (find? : String → Option String) (hfind : find? key = some template) :
    pattern.render values find? = .ok {
        text := replaceFragments
          (fun word => (pattern.inserted? values word).getD (braced word)) template
        key
        translated := true } ∧
      (∀ word ∈ fragments template, (bareName? word).isSome ∨ word ∈ fragments key →
        ∃ place ∈ pattern.placeholders,
          (word = place.2.name ∨ tagName? word = some place.2.name) ∧
            pattern.Inserts values word place.2) ∧
      (∀ word ∈ fragments template, bareName? word = none → tagName? word = none →
        pattern.inserted? values word = none) ∧
      ∀ place ∈ pattern.placeholders,
        (∃ word ∈ fragments template, word ∉ fragments key ∧
          tagName? word = some place.2.name) ∨
        pattern.Shows values template place.2 := by
  have parsed := parsed_of_parse hparse
  have hrender := render_of_lookupKey hkey find?
  obtain ⟨choice, hchoice, rfl⟩ :=
    exists_keyFor_of_lookupKey (parsed.independent hlanguages.braceFree) hkey
  have hnames := (validate_eq_nil_iff.1 hclean).2
  refine ⟨?_, ?_, ?_, ?_⟩
  · rw [hrender, hfind]
    rfl
  · rintro word hword (hbare | htag)
    · obtain ⟨name, hname⟩ := Option.isSome_iff_exists.1 hbare
      obtain ⟨rfl, -, -⟩ := bareName?_eq_some.1 hname
      have hprovided := (hnames word).1 (mem_textNames.2 ⟨word, hword, Or.inl hname⟩)
      obtain ⟨place, hplace, rfl⟩ :=
        (parsed.mem_keyNames_keyFor hlanguages hchoice.mem_choices).1 hprovided
      obtain ⟨first, hfirst, heq, hinserts⟩ := parsed.exists_inserts_name hchoice hplace
      exact ⟨first, hfirst, Or.inl heq.symm, hinserts⟩
    · obtain ⟨place, hplace, hname, hinserts⟩ :=
        parsed.exists_inserts_of_mem_key hlanguages hchoice htag
      exact ⟨place, hplace, Or.inr hname, hinserts⟩
  · intro word _ hbare htag
    exact parsed.inserted?_eq_none hlanguages hbare htag values
  · intro place hplace
    have hprovided :=
      (parsed.mem_keyNames_keyFor hlanguages hchoice.mem_choices).2 ⟨place, hplace, rfl⟩
    obtain ⟨word, hword, hbare | htag⟩ := mem_textNames.1 ((hnames place.2.name).2 hprovided)
    · obtain ⟨rfl, -, -⟩ := bareName?_eq_some.1 hbare
      obtain ⟨first, hfirst, heq, hinserts⟩ := parsed.exists_inserts_name hchoice hplace
      exact Or.inr (parsed.shows_of_inserts hplace hfirst heq hword hinserts)
    · by_cases hmem : word ∈ fragments (pattern.keyFor choice)
      · obtain ⟨tagged, htagged, hname, hinserts⟩ :=
          parsed.exists_inserts_of_mem_key hlanguages hchoice hmem
        have heq : tagged.2.name = place.2.name := Option.some.inj (hname.symm.trans htag)
        exact Or.inr (parsed.shows_of_inserts hplace htagged heq hword hinserts)
      · exact Or.inl ⟨word, hword, hmem, htag⟩

theorem render_of_no_findings_german :
    (Languages.ofLanguages Standard.languages).CategoriesPlain ∧
      ∃ pattern key, parse (Languages.ofLanguages Standard.languages) "de"
          (braced "gender(g)" ++ "\x7b" ++ braced "n") = .ok pattern ∧
        pattern.lookupKey {("g", .text "male"), ("n", .text "Ann")} = .ok key ∧
        validate key (braced "n" ++ ": " ++ braced "male(gender(g))") = [] ∧
        ∀ place ∈ pattern.placeholders,
          pattern.Shows {("g", .text "male"), ("n", .text "Ann")}
            (braced "n" ++ ": " ++ braced "male(gender(g))") place.2 := by
  have hlanguages : (Languages.ofLanguages Standard.languages).CategoriesPlain :=
    Languages.categoriesPlain_standard
  have hparse : ∃ pattern key, parse (Languages.ofLanguages Standard.languages) "de"
        (braced "gender(g)" ++ "\x7b" ++ braced "n") = .ok pattern ∧
      pattern.lookupKey {("g", .text "male"), ("n", .text "Ann")} = .ok key ∧
      validate key (braced "n" ++ ": " ++ braced "male(gender(g))") = [] ∧
      ∀ word ∈ fragments (braced "n" ++ ": " ++ braced "male(gender(g))"),
        word ∉ fragments key → tagName? word = none :=
    ⟨_, _, rfl, rfl, by decide +kernel, by decide +kernel⟩
  obtain ⟨pattern, key, hparse, hkey, hclean, htags⟩ := hparse
  obtain ⟨-, -, -, hshows⟩ :=
    render_of_no_findings hlanguages hparse hkey hclean (fun _ => some _) rfl
  refine ⟨hlanguages, pattern, key, hparse, hkey, hclean, ?_⟩
  intro place hplace
  rcases hshows place hplace with ⟨word, hword, hmem, htag⟩ | hshown
  · rw [htags word hword hmem] at htag
    contradiction
  · exact hshown

/-- Texts without findings that leave a fragment or drop a value: empty braces stay as they are; of
two placeholders that share their name, a text that names them both shows only one; and a tag of
another category than the one in the key counts as naming the placeholder but shows nothing. -/
theorem clean_text_may_drop_a_value :
    (Languages.ofLanguages Standard.languages).CategoriesPlain ∧
    (∃ pattern key, parse (Languages.ofLanguages Standard.languages) "de"
          (braced "gender(g)") = .ok pattern ∧
        pattern.lookupKey {("g", .text "male")} = .ok key ∧
        validate key (braced "g" ++ braced "") = [] ∧
        pattern.fill {("g", .text "male")} (braced "g" ++ braced "") =
          "männlich" ++ braced "" ∧
        validate key (braced "female(gender(g))") = [] ∧
        pattern.fill {("g", .text "male")} (braced "female(gender(g))") =
          braced "female(gender(g))") ∧
    ∃ pattern key, parse (Languages.ofLanguages Standard.languages) "de"
          (braced "gender(g)" ++ " " ++ braced "g") = .ok pattern ∧
        pattern.lookupKey {("g", .text "male")} = .ok key ∧
        validate key (braced "g" ++ " " ++ braced "g") = [] ∧
        pattern.placeholders.map (fun place => place.2.domain.format (.text "male")) =
          ["männlich", "male"] ∧
        pattern.fill {("g", .text "male")} (braced "g" ++ " " ++ braced "g") =
          "männlich männlich" :=
  ⟨Languages.categoriesPlain_standard,
    ⟨_, _, rfl, rfl, by decide +kernel, by decide +kernel, by decide +kernel, by decide +kernel⟩,
    _, _, rfl, rfl, by decide +kernel, by decide +kernel, by decide +kernel⟩

end Pattern

end Phrasebook
