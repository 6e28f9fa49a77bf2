import Mathlib.Data.List.Nodup
import Phrasebook.Pattern.Key
import Phrasebook.Proofs.Placeholder.Tag

/-!
Accepted patterns. Their placeholders are the distinct words of the source, each read for the
language of the pattern (`parsed_of_parse`); and replacing one of these words does not disturb the
tags that stand for the others (`Parsed.independent`).
-/
namespace Phrasebook

theorem nodup_eraseDups (words : List String) : words.eraseDups.Nodup := by
  induction hlength : words.length using Nat.strongRecOn generalizing words with
  | ind length ih =>
    subst hlength
    cases words with
    | nil => simp
    | cons word words =>
      rw [List.eraseDups_cons]
      refine List.nodup_cons.2 ⟨by simp, ih _ ?_ _ rfl⟩
      have hle := List.length_filter_le (fun other => !other == word) words
      simp only [List.length_cons]
      omega

theorem forall₂_of_mapM {α β : Type} {read : α → Except Error β} {inputs : List α}
    {outputs : List β} (h : inputs.mapM read = .ok outputs) :
    List.Forall₂ (fun input output => read input = .ok output) inputs outputs := by
  induction inputs generalizing outputs with
  | nil =>
    cases h
    exact .nil
  | cons input inputs ih =>
    rw [List.mapM_cons] at h
    cases hfirst : read input with
    | error => simp [hfirst, bind, Except.bind] at h
    | ok output =>
      cases hrest : inputs.mapM read with
      | error => simp [hfirst, hrest, bind, Except.bind] at h
      | ok rest =>
        simp only [hfirst, hrest, bind, Except.bind, pure, Except.pure, Except.ok.injEq] at h
        subst h
        exact .cons hfirst (ih hrest)

namespace Pattern

structure Parsed (languages : Languages) (code source : String) (pattern : Pattern) : Prop where
  source_eq : pattern.source = source
  language_eq : pattern.language = code
  words_eq : pattern.placeholders.map Prod.fst = (fragments source).eraseDups
  parse_eq : ∀ place ∈ pattern.placeholders,
    Placeholder.parse languages code place.1 = .ok place.2

def readPlace (languages : Languages) (code word : String) :
    Except Error (String × Placeholder) := do
  return (word, ← Placeholder.parse languages code word)

theorem parse_eq (languages : Languages) (code source : String) :
    parse languages code source = (do
      let placeholders ← (fragments source).eraseDups.mapM (readPlace languages code)
      return { source, language := code, placeholders }) :=
  rfl

section

variable {languages : Languages} {code : String}

theorem readPlace_eq_ok {word : String} {place : String × Placeholder}
    (h : readPlace languages code word = .ok place) :
    place.1 = word ∧ Placeholder.parse languages code word = .ok place.2 := by
  unfold readPlace at h
  cases hparse : Placeholder.parse languages code word with
  | error =>
    rw [hparse] at h
    contradiction
  | ok placeholder =>
    rw [hparse] at h
    cases h
    exact ⟨rfl, rfl⟩

theorem map_fst_of_forall₂ {words : List String} {places : List (String × Placeholder)}
    (h : List.Forall₂ (fun word place => readPlace languages code word = .ok place) words places) :
    places.map Prod.fst = words := by
  induction h with
  | nil => rfl
  | cons hplace _ ih => rw [List.map_cons, ih, (readPlace_eq_ok hplace).1]

theorem parse_eq_of_forall₂ {words : List String} {places : List (String × Placeholder)}
    (h : List.Forall₂ (fun word place => readPlace languages code word = .ok place) words places)
    {place : String × Placeholder} (hmem : place ∈ places) :
    Placeholder.parse languages code place.1 = .ok place.2 := by
  induction h with
  | nil => contradiction
  | cons hplace _ ih =>
    rcases List.mem_cons.1 hmem with rfl | hmem
    · obtain ⟨hword, hparse⟩ := readPlace_eq_ok hplace
      rw [hword, hparse]
    · exact ih hmem

theorem parsed_of_parse {source : String} {pattern : Pattern}
    (h : parse languages code source = .ok pattern) : Parsed languages code source pattern := by
  rw [parse_eq] at h
  cases hplaces : (fragments source).eraseDups.mapM (readPlace languages code) with
  | error =>
    rw [hplaces] at h
    contradiction
  | ok places =>
    rw [hplaces] at h
    cases h
    have hreads := forall₂_of_mapM hplaces
    exact ⟨rfl, rfl, map_fst_of_forall₂ hreads, fun place hmem => parse_eq_of_forall₂ hreads hmem⟩

end

/-- Distinct words to be replaced by tags that none of the replacements changes. -/
structure Independent (places : List (String × Placeholder)) : Prop where
  nodup : (places.map Prod.fst).Nodup
  braceFree_word : ∀ place ∈ places, BraceFree place.1
  braceFree_tagWord : ∀ place ∈ places, ∀ category ∈ place.2.domain.categories,
    BraceFree (place.2.tagWord category.name)
  tagWord_ne : ∀ place ∈ places, ∀ (tagged : Placeholder) (category : String),
    tagged.tagWord category ≠ place.1

theorem Independent.tail {place : String × Placeholder} {places : List (String × Placeholder)}
    (h : Independent (place :: places)) : Independent places where
  nodup := (List.nodup_cons.1 h.nodup).2
  braceFree_word := fun other hother => h.braceFree_word other (List.mem_cons_of_mem _ hother)
  braceFree_tagWord := fun other hother =>
    h.braceFree_tagWord other (List.mem_cons_of_mem _ hother)
  tagWord_ne := fun other hother => h.tagWord_ne other (List.mem_cons_of_mem _ hother)

namespace Parsed

variable {languages : Languages} {code source : String} {pattern : Pattern}

theorem mem_words (parsed : Parsed languages code source pattern) {word : String} :
    word ∈ pattern.placeholders.map Prod.fst ↔ word ∈ fragments source := by
  rw [parsed.words_eq, List.mem_eraseDups]

theorem reads (parsed : Parsed languages code source pattern) {place : String × Placeholder}
    (hplace : place ∈ pattern.placeholders) :
    Placeholder.Reads languages place.1 place.2 := by
  have hword := parsed.mem_words.1 (List.mem_map_of_mem hplace)
  exact Placeholder.reads_of_parse (braceFree_of_mem_fragments hword)
    (parsed.parse_eq place hplace)

theorem nodup_words (parsed : Parsed languages code source pattern) :
    (pattern.placeholders.map Prod.fst).Nodup := by
  rw [parsed.words_eq]
  exact nodup_eraseDups (fragments source)

theorem independent_of_braceFree (parsed : Parsed languages code source pattern)
    (h : ∀ place ∈ pattern.placeholders, ∀ category ∈ place.2.domain.categories,
      BraceFree category.name) : Independent pattern.placeholders where
  nodup := parsed.nodup_words
  braceFree_word := fun _ hplace =>
    braceFree_of_mem_fragments (parsed.mem_words.1 (List.mem_map_of_mem hplace))
  braceFree_tagWord := fun place hplace category hcategory =>
    Placeholder.braceFree_tagWord (h place hplace category hcategory)
      (parsed.reads hplace).isPlain_name
  tagWord_ne := fun _ hplace => (parsed.reads hplace).tagWord_ne

theorem independent (parsed : Parsed languages code source pattern)
    (hlanguages : languages.CategoriesBraceFree) : Independent pattern.placeholders :=
  parsed.independent_of_braceFree fun _ hplace _ hcategory =>
    (parsed.reads hplace).braceFree_category hlanguages hcategory

end Parsed

end Pattern

end Phrasebook
