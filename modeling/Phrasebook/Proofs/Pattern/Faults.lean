import Phrasebook.Proofs.First
import Phrasebook.Proofs.Pattern.Reading

/-!
First faults. A source is refused for the first word that cannot be read (`parse_eq_error_iff`), and
values are refused for the first placeholder that does not accept them (`lookupKey_eq_error_iff`).
-/
namespace Phrasebook

theorem mapM_eq_error_iff {α β : Type} {read : α → Except Error β} {inputs : List α}
    {error : Error} :
    inputs.mapM read = .error error ↔
      First (fun input => ∃ output, read input = .ok output)
        (fun input => read input = .error error) inputs := by
  induction inputs with
  | nil => simp [First.not_nil, pure, Except.pure]
  | cons input inputs ih =>
    rw [List.mapM_cons, First.cons_iff, ← ih]
    cases read input with
    | error found => simp [bind, Except.bind]
    | ok output => cases inputs.mapM read <;> simp [bind, Except.bind, pure, Except.pure]

namespace Placeholder

def Accepts (placeholder : Placeholder) (values : Values) : Prop :=
  ∃ value, values[placeholder.name]? = some value ∧
    ∃ category ∈ placeholder.domain.categories, category.covers value = true

inductive Refuses (placeholder : Placeholder) (values : Values) : Error → Prop
  | missing (h : values[placeholder.name]? = none) :
      Refuses placeholder values (.missingValue placeholder.name)
  | notCovered {value : Value} (hvalue : values[placeholder.name]? = some value)
      (hcovers : ∀ category ∈ placeholder.domain.categories, category.covers value = false) :
      Refuses placeholder values
        (.notCovered value.display placeholder.domain.name (some placeholder.name))

variable {placeholder : Placeholder} {values : Values} {error : Error}

theorem accepts_of_tagFor {tag : String} (h : placeholder.tagFor values = .ok tag) :
    placeholder.Accepts values := by
  unfold tagFor at h
  split at h
  · contradiction
  · next value hvalue =>
    split at h
    · next category hclassify =>
      exact ⟨value, hvalue, category, Domain.mem_categories_of_classify hclassify,
        Domain.covers_of_classify hclassify⟩
    · contradiction

theorem refuses_of_tagFor (h : placeholder.tagFor values = .error error) :
    placeholder.Refuses values error := by
  unfold tagFor at h
  split at h
  · next hvalue =>
    cases h
    exact .missing hvalue
  · next value hvalue =>
    unfold Domain.classify at h
    cases hcategory : placeholder.domain.category? value with
    | some category =>
      rw [hcategory] at h
      contradiction
    | none =>
      rw [hcategory] at h
      cases h
      exact .notCovered hvalue (by simpa using List.find?_eq_none.1 hcategory)

theorem tagFor_of_refuses (h : placeholder.Refuses values error) :
    placeholder.tagFor values = .error error := by
  unfold tagFor
  cases h with
  | missing hvalue => rw [hvalue]
  | @notCovered value hvalue hcovers =>
    have hcategory : placeholder.domain.category? value = none :=
      List.find?_eq_none.2 (by simpa using hcovers)
    rw [hvalue]
    simp only [Domain.classify, hcategory]
    rfl

theorem exists_tagFor_of_accepts (h : placeholder.Accepts values) :
    ∃ tag, placeholder.tagFor values = .ok tag := by
  obtain ⟨value, hvalue, category, hmem, hcovers⟩ := h
  cases htag : placeholder.tagFor values with
  | ok tag => exact ⟨tag, rfl⟩
  | error error =>
    cases refuses_of_tagFor htag with
    | missing hnone => simp [hnone] at hvalue
    | notCovered hother hnot =>
      obtain rfl := Option.some.inj (hvalue.symm.trans hother)
      simp [hnot category hmem] at hcovers

end Placeholder

namespace Pattern

theorem selectKey_eq_error_iff {values : Values} {key : String}
    {places : List (String × Placeholder)} {error : Error} :
    selectKey values key places = .error error ↔
      First (fun place => place.2.Accepts values) (fun place => place.2.Refuses values error)
        places := by
  induction places generalizing key with
  | nil => simp [First.not_nil, selectKey]
  | cons place places ih =>
    obtain ⟨word, placeholder⟩ := place
    rw [First.cons_iff, selectKey]
    cases htag : placeholder.tagFor values with
    | error found =>
      have hrefuses : placeholder.Refuses values error ↔ found = error :=
        ⟨fun h => Except.error.inj (htag.symm.trans (Placeholder.tagFor_of_refuses h)),
          fun h => h ▸ Placeholder.refuses_of_tagFor htag⟩
      have haccepts : ¬ placeholder.Accepts values := by
        intro h
        obtain ⟨tag, hok⟩ := Placeholder.exists_tagFor_of_accepts h
        rw [htag] at hok
        contradiction
      simp [bind, Except.bind, hrefuses, haccepts]
    | ok tag =>
      have haccepts := Placeholder.accepts_of_tagFor htag
      have hrefuses : ¬ placeholder.Refuses values error := by
        intro h
        rw [Placeholder.tagFor_of_refuses h] at htag
        contradiction
      simp only [bind, Except.bind, haccepts, hrefuses, false_or, true_and]
      exact ih

theorem accepts_of_selectKey {values : Values} {key selected : String}
    {places : List (String × Placeholder)} (h : selectKey values key places = .ok selected) :
    ∀ place ∈ places, place.2.Accepts values := by
  induction places generalizing key with
  | nil => simp
  | cons place places ih =>
    obtain ⟨tag, htag, hrest⟩ := exists_of_bind_eq_ok h
    exact List.forall_mem_cons.2 ⟨Placeholder.accepts_of_tagFor htag, ih hrest⟩

theorem exists_value_of_lookupKey {pattern : Pattern} {values : Values} {key : String}
    (h : pattern.lookupKey values = .ok key) {place : String × Placeholder}
    (hplace : place ∈ pattern.placeholders) : ∃ value, values[place.2.name]? = some value :=
  (accepts_of_selectKey h place hplace).imp fun _ => And.left

theorem lookupKey_eq_error_iff {pattern : Pattern} {values : Values} {error : Error} :
    pattern.lookupKey values = .error error ↔
      First (fun place => place.2.Accepts values) (fun place => place.2.Refuses values error)
        pattern.placeholders :=
  selectKey_eq_error_iff

variable {languages : Languages} {code source : String} {pattern : Pattern}

theorem readPlace_eq_error_iff {word : String} {error : Error} :
    readPlace languages code word = .error error ↔
      Placeholder.parse languages code word = .error error := by
  unfold readPlace
  cases Placeholder.parse languages code word <;> simp [bind, Except.bind, pure, Except.pure]

theorem exists_readPlace_iff {word : String} :
    (∃ place, readPlace languages code word = .ok place) ↔
      ∃ placeholder, Placeholder.parse languages code word = .ok placeholder := by
  unfold readPlace
  cases Placeholder.parse languages code word <;> simp [bind, Except.bind, pure, Except.pure]

theorem parse_eq_error_iff {error : Error} :
    parse languages code source = .error error ↔
      First (fun word => ∃ placeholder, Placeholder.parse languages code word = .ok placeholder)
        (fun word => Placeholder.parse languages code word = .error error) (fragments source) := by
  have hparse : parse languages code source = .error error ↔
      (fragments source).eraseDups.mapM (readPlace languages code) = .error error := by
    rw [parse_eq]
    cases (fragments source).eraseDups.mapM (readPlace languages code) <;>
      simp [bind, Except.bind, pure, Except.pure]
  rw [hparse, mapM_eq_error_iff, First.eraseDups_iff]
  simp only [readPlace_eq_error_iff, exists_readPlace_iff]

def reading (place : String × Placeholder) : String × Except Error Placeholder :=
  (place.1, .ok place.2)

theorem reading_injective : Function.Injective reading := by
  rintro ⟨word, placeholder⟩ ⟨word', placeholder'⟩ h
  simpa [reading] using h

theorem Parsed.map_reading (parsed : Parsed languages code source pattern) :
    pattern.placeholders.map reading =
      (fragments source).eraseDups.map fun word => (word, Placeholder.parse languages code word) := by
  rw [← parsed.words_eq, List.map_map]
  exact List.map_congr_left fun place hplace => Prod.ext rfl (parsed.parse_eq place hplace).symm

theorem Parsed.eq {other : Pattern} (parsed : Parsed languages code source pattern)
    (parsed' : Parsed languages code source other) : other = pattern := by
  have hplaceholders : other.placeholders = pattern.placeholders :=
    List.map_injective_iff.2 reading_injective
      (parsed'.map_reading.trans parsed.map_reading.symm)
  have hsource := parsed'.source_eq.trans parsed.source_eq.symm
  have hlanguage := parsed'.language_eq.trans parsed.language_eq.symm
  cases other
  cases pattern
  simp_all

theorem parse_eq_ok_iff :
    parse languages code source = .ok pattern ↔ Parsed languages code source pattern := by
  refine ⟨parsed_of_parse, fun parsed => ?_⟩
  cases hparse : parse languages code source with
  | ok other => rw [parsed.eq (parsed_of_parse hparse)]
  | error error =>
    obtain ⟨front, word, back, heq, -, herror⟩ := parse_eq_error_iff.1 hparse
    have hword : word ∈ pattern.placeholders.map Prod.fst := by
      rw [parsed.mem_words, heq]
      simp
    obtain ⟨place, hplace, rfl⟩ := List.mem_map.1 hword
    rw [parsed.parse_eq place hplace] at herror
    contradiction

end Pattern

end Phrasebook
