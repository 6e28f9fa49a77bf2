import Mathlib.Data.List.TakeWhile
import Phrasebook.Proofs.Catalog.Pairing
import Phrasebook.Proofs.Catalog.Validation
import Phrasebook.Proofs.Text.ByteOrder
import Phrasebook.Proofs.Text.Fragment

/-!
Validation against derived keys. The keys of a pattern are written by putting in tags, and the
validation finds the tags again with a reader of its own. It reads the names of the placeholders,
whatever the rest of the pattern is (`validate_reads_derived_key`), so a text gets no finding if it
is the key itself or names each placeholder, and a finding if it leaves one out.
-/
namespace Phrasebook

theorem nestedApplication?_of_isPlain {word : String} (hword : isPlain word = true) :
    nestedApplication? word.toList = none := by
  have hrun : plainRun word.toList = (word.toList, []) := by
    have hplain : ∀ c ∈ word.toList, (!isReserved c) = true := by
      simpa using isPlain_iff.1 hword
    rw [plainRun, List.takeWhile_eq_self_iff.2 hplain, List.dropWhile_eq_nil_iff.2 hplain]
  rw [nestedApplication?, hrun]
  cases word.toList <;> rfl

theorem tagName?_of_isPlain {word : String} (hword : isPlain word = true) :
    tagName? word = none := by
  rw [tagName?, nestedApplication?_of_isPlain hword, Option.map_none]

theorem isPlain_of_hasFragment {text word : String} (htext : hasParenthesis text = false)
    (h : HasFragment text word) : isPlain word = true := by
  obtain ⟨hword, before, after, rfl⟩ := h
  apply Placeholder.isPlain_of_not_hasParenthesis hword
  simp only [hasParenthesis, String.toList_append, toList_braced, List.any_append, List.any_cons,
    Bool.or_eq_false_iff] at htext
  simpa only [hasParenthesis, Bool.not_eq_true] using htext.1.2.2.1

theorem mem_textNames_of_not_hasParenthesis {text name : String}
    (htext : hasParenthesis text = false) :
    name ∈ textNames text ↔ name ≠ "" ∧ HasFragment text name := by
  simp only [mem_textNames, mem_fragments_iff]
  constructor
  · rintro ⟨word, hword, hbare | htag⟩
    · obtain ⟨rfl, hne, -⟩ := bareName?_eq_some.1 hbare
      exact ⟨hne, hword⟩
    · rw [tagName?_of_isPlain (isPlain_of_hasFragment htext hword)] at htag
      contradiction
  · rintro ⟨hne, hname⟩
    exact ⟨name, hname,
      .inl (bareName?_eq_some.2 ⟨rfl, hne, isPlain_of_hasFragment htext hname⟩)⟩

theorem unusedNames_mem_validate {key text : String} {name : String}
    (htext : bracesPairUp false text.toList = true) (hkey : name ∈ keyNames key)
    (hname : name ∉ textNames text) :
    .unusedNames ((keyNames key).filter (!(textNames text).contains ·)) ∈ validate key text := by
  have hunused : name ∈ (keyNames key).filter (!(textNames text).contains ·) := by
    simp [hkey, hname]
  rw [validate, if_pos htext]
  apply List.mem_append_right
  rw [if_neg]
  · exact List.mem_singleton_self _
  · rw [List.isEmpty_iff]
    exact List.ne_nil_of_mem hunused

namespace Pattern

variable {languages : Languages} {code source : String} {pattern : Pattern} {key : String}

namespace Parsed

theorem enumerates_keyNames (parsed : Parsed languages code source pattern)
    (hlanguages : languages.CategoriesPlain) {choice : List Category}
    (hchoice : choice ∈ choices pattern.placeholders) :
    Enumerates (keyNames (pattern.keyFor choice))
      fun name => ∃ place ∈ pattern.placeholders, place.2.name = name where
  ascending := (enumerates_sortedDistinct _).ascending
  mem_iff _ := parsed.mem_keyNames_keyFor hlanguages hchoice

theorem validate_keyFor_self (parsed : Parsed languages code source pattern)
    (hlanguages : languages.CategoriesPlain) {choice : List Category}
    (hchoice : choice ∈ choices pattern.placeholders)
    (hsource : bracesPairUp false source.toList = true) :
    validate (pattern.keyFor choice) (pattern.keyFor choice) = [] := by
  rw [validate_eq_nil_iff]
  constructor
  · rw [keyFor, parsed.source_eq, bracesPairUp_replaceFragments, hsource]
    intro word hword
    exact (parsed.independent hlanguages.braceFree).braceFree_wordFor hchoice
      (braceFree_of_mem_fragments hword)
  · intro name
    rw [mem_textNames, mem_keyNames]
    refine exists_congr fun word => and_congr_right fun hword => or_iff_right fun hbare => ?_
    obtain ⟨place, hplace, rfl⟩ :=
      (parsed.mem_fragments_keyFor hlanguages.braceFree hchoice).1 hword
    have htag := parsed.tagName?_wordFor hlanguages hchoice hplace
    obtain ⟨heq, -, hplain⟩ := bareName?_eq_some.1 hbare
    simp [tagName?_of_isPlain (heq ▸ hplain)] at htag

theorem validate_bare (parsed : Parsed languages code source pattern)
    (hlanguages : languages.CategoriesPlain) {choice : List Category}
    (hchoice : choice ∈ choices pattern.placeholders)
    (hsource : bracesPairUp false source.toList = true) {bare : String → String}
    (hbare : ∀ place ∈ pattern.placeholders, bare place.1 = place.2.name) :
    validate (pattern.keyFor choice) (replaceFragments (fun word => braced (bare word)) source) =
      [] := by
  have hplain : ∀ word ∈ fragments source, bare word ≠ "" ∧ isPlain (bare word) = true := by
    intro word hword
    obtain ⟨place, hplace, rfl⟩ := List.mem_map.1 (parsed.mem_words.2 hword)
    rw [hbare place hplace]
    exact ⟨(parsed.reads hplace).name_ne_empty, (parsed.reads hplace).isPlain_name⟩
  have hbraceFree : ∀ word ∈ fragments source, BraceFree (bare word) :=
    fun word hword => braceFree_of_isPlain (hplain word hword).2
  rw [validate_eq_nil_iff, bracesPairUp_replaceFragments hbraceFree]
  refine ⟨hsource, fun name => ?_⟩
  rw [parsed.mem_keyNames_keyFor hlanguages hchoice, mem_textNames,
    fragments_replaceFragments hbraceFree]
  constructor
  · rintro ⟨_, hmem, hname⟩
    obtain ⟨word, hword, rfl⟩ := List.mem_map.1 hmem
    simp only [tagName?_of_isPlain (hplain word hword).2, reduceCtorEq, or_false,
      bareName?_eq_some] at hname
    obtain ⟨place, hplace, rfl⟩ := List.mem_map.1 (parsed.mem_words.2 hword)
    exact ⟨place, hplace, (hbare place hplace).symm.trans hname.1⟩
  · rintro ⟨place, hplace, rfl⟩
    have hword := parsed.mem_words.1 (List.mem_map_of_mem hplace)
    have hname := bareName?_eq_some.2 ⟨rfl, hplain _ hword⟩
    rw [hbare place hplace] at hname
    exact ⟨place.2.name, List.mem_map.2 ⟨place.1, hword, hbare place hplace⟩, .inl hname⟩

theorem exists_unusedNames (parsed : Parsed languages code source pattern)
    (hlanguages : languages.CategoriesPlain) {choice : List Category}
    (hchoice : choice ∈ choices pattern.placeholders) {text : String}
    (htext : bracesPairUp false text.toList = true) (hparenthesis : hasParenthesis text = false)
    {place : String × Placeholder} (hplace : place ∈ pattern.placeholders)
    (hname : ¬ HasFragment text place.2.name) :
    ∃ names, .unusedNames names ∈ validate (pattern.keyFor choice) text ∧
      Enumerates names fun name => (∃ place ∈ pattern.placeholders, place.2.name = name) ∧
        ¬ HasFragment text name := by
  have hkey := (parsed.mem_keyNames_keyFor hlanguages hchoice).2 ⟨place, hplace, rfl⟩
  have hunused : place.2.name ∉ textNames text := fun hmem =>
    hname ((mem_textNames_of_not_hasParenthesis hparenthesis).1 hmem).2
  refine ⟨_, unusedNames_mem_validate htext hkey hunused,
    ((parsed.enumerates_keyNames hlanguages hchoice).filter _).congr fun name => ?_⟩
  refine and_congr_right ?_
  rintro ⟨other, hother, rfl⟩
  have hne := (parsed.reads hother).name_ne_empty
  simp [mem_textNames_of_not_hasParenthesis hparenthesis, hne]

end Parsed

/-- In a key, however the braces around its tags may stand, the validation reads the names of the
placeholders. So the key itself and the source with bare names in its fragments get no finding if
their braces pair up, and a text that leaves out names gets one that lists them. -/
theorem validate_reads_derived_key (hlanguages : languages.CategoriesPlain)
    (hparse : parse languages code source = .ok pattern) (hkey : key ∈ pattern.keys) :
    Enumerates (keyNames key) (fun name => ∃ place ∈ pattern.placeholders, place.2.name = name) ∧
      (bracesPairUp false source.toList = true → validate key key = [] ∧
        ∀ bare : String → String, (∀ place ∈ pattern.placeholders, bare place.1 = place.2.name) →
          validate key (replaceFragments (fun word => braced (bare word)) source) = []) ∧
      ∀ text, bracesPairUp false text.toList = true → hasParenthesis text = false →
        ∀ place ∈ pattern.placeholders, ¬ HasFragment text place.2.name →
          ∃ names, .unusedNames names ∈ validate key text ∧ place.2.name ∈ names ∧
            Enumerates names fun name =>
              (∃ other ∈ pattern.placeholders, other.2.name = name) ∧ ¬ HasFragment text name := by
  have parsed := parsed_of_parse hparse
  obtain ⟨choice, hchoice, rfl⟩ := (mem_keys (parsed.independent hlanguages.braceFree)).1 hkey
  refine ⟨parsed.enumerates_keyNames hlanguages hchoice, fun hsource => ⟨?_, ?_⟩, ?_⟩
  · exact parsed.validate_keyFor_self hlanguages hchoice hsource
  · exact fun bare hbare => parsed.validate_bare hlanguages hchoice hsource hbare
  · intro text htext hparenthesis place hplace hname
    obtain ⟨names, hfinding, hnames⟩ :=
      parsed.exists_unusedNames hlanguages hchoice htext hparenthesis hplace hname
    exact ⟨names, hfinding, (hnames.mem_iff _).2 ⟨⟨place, hplace, rfl⟩, hname⟩, hnames⟩

theorem validate_reads_derived_key_german :
    (Languages.ofLanguages Standard.languages).CategoriesPlain ∧
      ∃ pattern key, parse (Languages.ofLanguages Standard.languages) "de"
          (braced "gender(g)" ++ ": " ++ braced "n") = .ok pattern ∧
        key ∈ pattern.keys ∧ ("n" ∈ keyNames key ∧ "gender(g)" ∉ keyNames key) ∧
        validate key key = [] ∧ validate key (braced "g" ++ ": " ++ braced "n") = [] ∧
        ∃ names, .unusedNames names ∈ validate key (braced "n") ∧ "g" ∈ names := by
  have hlanguages : (Languages.ofLanguages Standard.languages).CategoriesPlain :=
    Languages.categoriesPlain_standard
  have hparse : ∃ pattern key place, parse (Languages.ofLanguages Standard.languages) "de"
        (braced "gender(g)" ++ ": " ++ braced "n") = .ok pattern ∧
      key ∈ pattern.keys ∧ place ∈ pattern.placeholders ∧ place.2.name = "g" ∧
      pattern.placeholders.map (·.2.name) = ["g", "n"] ∧
      ∀ place ∈ pattern.placeholders,
        (if place.1 = "n" then "n" else "g") = place.2.name :=
    ⟨_, _, _, rfl, List.mem_cons_self, List.mem_cons_self, rfl, rfl, by decide +kernel⟩
  obtain ⟨pattern, key, place, hparse, hkey, hplace, hname, hnames, hbare⟩ := hparse
  obtain ⟨hread, hclean, hunused⟩ := validate_reads_derived_key hlanguages hparse hkey
  obtain ⟨hself, htext⟩ := hclean (by decide +kernel)
  have hprovided (name : String) : name ∈ keyNames key ↔ name ∈ ["g", "n"] := by
    rw [hread.mem_iff, ← hnames, List.mem_map]
  refine ⟨hlanguages, pattern, key, hparse, hkey, ?_, hself, ?_, ?_⟩
  · rw [hprovided, hprovided]
    decide
  · have hreplaced : replaceFragments
        (fun word => braced (if word = "n" then "n" else "g"))
        (braced "gender(g)" ++ ": " ++ braced "n") = braced "g" ++ ": " ++ braced "n" := by
      decide +kernel
    rw [← hreplaced]
    exact htext (fun word => if word = "n" then "n" else "g") hbare
  · have hmissing : ¬ HasFragment (braced "n") place.2.name := by
      rw [hname, ← mem_fragments_iff]
      decide +kernel
    obtain ⟨names, hfinding, hmem, -⟩ :=
      hunused (braced "n") (by decide +kernel) (by decide +kernel) place hplace hmissing
    exact ⟨names, hfinding, hname ▸ hmem⟩

end Pattern

end Phrasebook
