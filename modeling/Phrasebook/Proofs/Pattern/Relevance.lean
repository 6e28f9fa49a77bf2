import Phrasebook.Proofs.Pattern.Faults
import Phrasebook.Proofs.Pattern.Filling

/-!
The values that matter. A pattern reads the values of its placeholders and no others, so values that
agree on these are rendered alike (`AgreeOn.render_eq`), whatever the translated texts are. In
particular a translated text can show a value only by a word that a placeholder answers to; every
other fragment is left as it is, though a value of that name may be given.
-/
namespace Phrasebook

namespace Placeholder

variable {placeholder : Placeholder} {values values' : Values} {word : String}

theorem tagFor_congr (h : values[placeholder.name]? = values'[placeholder.name]?) :
    placeholder.tagFor values = placeholder.tagFor values' := by
  rw [tagFor, tagFor, h]

theorem insertion?_congr (h : values[placeholder.name]? = values'[placeholder.name]?) :
    placeholder.insertion? values word = placeholder.insertion? values' word := by
  rw [insertion?, insertion?, h]

theorem sourceText_congr (h : values[placeholder.name]? = values'[placeholder.name]?) :
    placeholder.sourceText values = placeholder.sourceText values' := by
  rw [sourceText, sourceText, h]

end Placeholder

namespace Pattern

def AgreeOn (pattern : Pattern) (values values' : Values) : Prop :=
  ∀ place ∈ pattern.placeholders, values[place.2.name]? = values'[place.2.name]?

theorem selectKey_congr {values values' : Values} {places : List (String × Placeholder)}
    (h : ∀ place ∈ places, values[place.2.name]? = values'[place.2.name]?) (key : String) :
    selectKey values key places = selectKey values' key places := by
  induction places generalizing key with
  | nil => rfl
  | cons place places ih =>
    obtain ⟨hplace, hplaces⟩ := List.forall_mem_cons.1 h
    rw [selectKey, selectKey, Placeholder.tagFor_congr hplace]
    cases place.2.tagFor values' with
    | error error => rfl
    | ok tag => exact ih hplaces _

variable {pattern : Pattern} {values values' : Values}

namespace AgreeOn

theorem lookupKey_eq (h : pattern.AgreeOn values values') :
    pattern.lookupKey values = pattern.lookupKey values' :=
  selectKey_congr h pattern.source

theorem inserted?_eq (h : pattern.AgreeOn values values') (word : String) :
    pattern.inserted? values word = pattern.inserted? values' word := by
  rw [inserted?, inserted?, ← List.head?_filterMap, ← List.head?_filterMap]
  exact congrArg List.head? (List.filterMap_congr fun place hplace =>
    Placeholder.insertion?_congr (h place hplace))

theorem fill_eq (h : pattern.AgreeOn values values') (template : String) :
    pattern.fill values template = pattern.fill values' template := by
  simp only [fill_eq_replaceFragments, h.inserted?_eq]

theorem passThrough_eq (h : pattern.AgreeOn values values') :
    pattern.passThrough values = pattern.passThrough values' := by
  apply replaceFragments_congr
  intro word _
  cases hfound : pattern.placeholders.find? (·.1 == word) with
  | none => rfl
  | some place => exact Placeholder.sourceText_congr (h place (List.mem_of_find?_eq_some hfound))

theorem render_eq (h : pattern.AgreeOn values values') (find? : String → Option String) :
    pattern.render values find? = pattern.render values' find? := by
  rw [render, render, h.lookupKey_eq, h.passThrough_eq]
  simp only [h.fill_eq]

end AgreeOn

theorem exists_inserted?_of_answersTo
    (hgiven : ∀ place ∈ pattern.placeholders, ∃ value, values[place.2.name]? = some value)
    {word : String} (hanswers : ∃ place ∈ pattern.placeholders, place.2.AnswersTo values word) :
    ∃ place ∈ pattern.placeholders, place.2.AnswersTo values word ∧
      ∃ value, values[place.2.name]? = some value ∧
        pattern.inserted? values word = some (place.2.domain.format value) := by
  cases hinserted : pattern.inserted? values word with
  | none =>
    obtain ⟨place, hplace, hanswers⟩ := hanswers
    obtain ⟨value, hvalue⟩ := hgiven place hplace
    rw [inserted?_eq_none_iff.1 hinserted place hplace hanswers] at hvalue
    contradiction
  | some text =>
    obtain ⟨place, hplace, hinsertion⟩ := List.exists_of_findSome?_eq_some hinserted
    obtain ⟨hanswers, value, hvalue, rfl⟩ := Placeholder.insertion?_eq_some.1 hinsertion
    exact ⟨place, hplace, hanswers, value, hvalue, rfl⟩

/-- Values of other names neither change a rendering nor appear in it. A translated text shows the
value of a placeholder where that answers to a word, and the word itself, braces included, where
none does. So a name that is not one of the pattern stays as it is, whether or not it has a value;
a tag refers to its placeholder even if some value is given under the tag as a name. -/
theorem render_reads_named_values (pattern : Pattern) (values : Values) :
    (∀ values', pattern.AgreeOn values values' →
      pattern.lookupKey values = pattern.lookupKey values' ∧
      ∀ find?, pattern.render values find? = pattern.render values' find?) ∧
    (∀ key, pattern.lookupKey values = .ok key → ∃ put : String → String,
      (∀ find? template, find? key = some template → pattern.render values find? =
        .ok { text := replaceFragments put template, key, translated := true }) ∧
      (∀ word, (∃ place ∈ pattern.placeholders, place.2.AnswersTo values word) →
        ∃ place ∈ pattern.placeholders, place.2.AnswersTo values word ∧
          ∃ value, values[place.2.name]? = some value ∧
            put word = place.2.domain.format value) ∧
      ∀ word, (∀ place ∈ pattern.placeholders, ¬ place.2.AnswersTo values word) →
        put word = braced word ∧ (BraceFree word → ∀ before after,
          replaceFragments put (before ++ braced word ++ after) =
            replaceFragments put before ++ braced word ++ replaceFragments put after)) ∧
    ∀ word, isPlain word = true → ∀ place ∈ pattern.placeholders,
      (place.2.AnswersTo values word ↔ place.2.name = word) := by
  refine ⟨fun values' hagree => ⟨hagree.lookupKey_eq, hagree.render_eq⟩, fun key hkey => ?_,
    fun word hword place _ => Placeholder.answersTo_iff_of_isPlain hword⟩
  have hgiven : ∀ place ∈ pattern.placeholders, ∃ value,
      values[place.2.name]? = some value := fun _ => exists_value_of_lookupKey hkey
  refine ⟨fun word => (pattern.inserted? values word).getD (braced word), ?_, ?_, ?_⟩
  · intro find? template htemplate
    rw [render_of_lookupKey hkey, htemplate]
    rfl
  · intro word hanswers
    obtain ⟨place, hplace, hanswers, value, hvalue, hinserted⟩ :=
      exists_inserted?_of_answersTo hgiven hanswers
    refine ⟨place, hplace, hanswers, value, hvalue, ?_⟩
    simp only [hinserted, Option.getD_some]
  · intro word hnone
    have hput : (pattern.inserted? values word).getD (braced word) = braced word := by
      rw [inserted?_eq_none_iff.2 fun place hplace hanswers =>
        absurd hanswers (hnone place hplace), Option.getD_none]
    refine ⟨hput, fun hword before after => ?_⟩
    rw [replaceFragments_append_braced hword, hput]

/-- A text that asks for a value which is given, though not for this pattern. -/
theorem render_reads_named_values_german :
    ∃ pattern values values' key put,
      parse (Languages.ofLanguages Standard.languages) "de" (braced "gender(g)") = .ok pattern ∧
      values = {("g", .text "male"), ("secret", .text "leak")} ∧
      values' = {("g", .text "male")} ∧ pattern.AgreeOn values values' ∧
      (∀ find?, pattern.render values find? = pattern.render values' find?) ∧
      pattern.lookupKey values = .ok key ∧
      pattern.render values (fun _ => some (braced "g" ++ braced "secret")) =
        .ok { text := replaceFragments put (braced "g" ++ braced "secret"), key,
              translated := true } ∧
      put "g" = "männlich" ∧ put "secret" = braced "secret" := by
  have hparse : ∃ pattern key,
      parse (Languages.ofLanguages Standard.languages) "de" (braced "gender(g)") = .ok pattern ∧
      pattern.lookupKey {("g", .text "male"), ("secret", .text "leak")} = .ok key ∧
      pattern.AgreeOn {("g", .text "male"), ("secret", .text "leak")} {("g", .text "male")} ∧
      pattern.placeholders.map (·.2.name) = ["g"] ∧
      ∀ place ∈ pattern.placeholders,
        ({("g", .text "male"), ("secret", .text "leak")} : Values)[place.2.name]?.map
          place.2.domain.format = some "männlich" :=
    ⟨_, _, rfl, rfl, by unfold AgreeOn; decide +kernel, by decide +kernel, by decide +kernel⟩
  obtain ⟨pattern, key, hparse, hkey, hagree, hnames, hshown⟩ := hparse
  obtain ⟨hsame, hput, hplain⟩ := render_reads_named_values pattern
    {("g", .text "male"), ("secret", .text "leak")}
  obtain ⟨put, hrender, hshows, hkeeps⟩ := hput key hkey
  refine ⟨pattern, _, _, key, put, hparse, rfl, rfl, hagree, (hsame _ hagree).2, hkey,
    hrender (fun _ => some _) _ rfl, ?_, ?_⟩
  · have hmem : "g" ∈ pattern.placeholders.map (·.2.name) := by simp [hnames]
    obtain ⟨place, hplace, hname⟩ := List.mem_map.1 hmem
    obtain ⟨other, hother, -, value, hvalue, htext⟩ := hshows "g"
      ⟨place, hplace, (hplain "g" (by decide) place hplace).2 hname⟩
    have hformat := hshown other hother
    rw [hvalue, Option.map_some, Option.some.injEq] at hformat
    rw [htext, hformat]
  · refine (hkeeps "secret" fun place hplace hanswers => ?_).1
    have hname := (hplain "secret" (by decide) place hplace).1 hanswers
    have hmem := List.mem_map_of_mem (f := fun place => place.2.name) hplace
    rw [hnames, hname] at hmem
    contradiction

end Pattern

end Phrasebook
