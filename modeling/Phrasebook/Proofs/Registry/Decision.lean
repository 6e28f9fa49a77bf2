import Phrasebook.Proofs.Language.Nearest
import Phrasebook.Proofs.Pattern.Filling
import Phrasebook.Proofs.Registry.Outcome
import Phrasebook.Proofs.Registry.Update

/-!
How a rendering is decided. Faults of the source come before faults of the values, these come before
the search for a text, and the mode only matters if there is none (`render_eq_iff_renders`).
-/
namespace Phrasebook.Registry

/-- What a rendering comes to. Each case takes for granted that the faults of those before it are
not there. -/
inductive Renders (registry : Registry) (code source : String) (values : Values) :
    Except Error String → Prop
  | misread {error : Error}
      (h : First
        (fun word => ∃ placeholder, Placeholder.parse registry.languages code word = .ok placeholder)
        (fun word => Placeholder.parse registry.languages code word = .error error)
        (fragments source)) :
      Renders registry code source values (.error error)
  | refused {pattern : Pattern} {error : Error}
      (parsed : Pattern.Parsed registry.languages code source pattern)
      (h : First (fun place => place.2.Accepts values) (fun place => place.2.Refuses values error)
        pattern.placeholders) :
      Renders registry code source values (.error error)
  | translated {pattern : Pattern} {key text : String} {nearer further : List Language}
      {language : Language} (parsed : Pattern.Parsed registry.languages code source pattern)
      (hkey : pattern.lookupKey values = .ok key)
      (hchain : registry.languages.chain code = .ok (nearer ++ language :: further))
      (hnearer : ∀ other ∈ nearer, registry.localText? other.code key = none)
      (htext : registry.localText? language.code key = some text) :
      Renders registry code source values (.ok (pattern.fill values text))
  | passedThrough {pattern : Pattern} {key : String} {shown : String → String}
      (parsed : Pattern.Parsed registry.languages code source pattern)
      (hkey : pattern.lookupKey values = .ok key)
      (hnone : ∀ chain, registry.languages.chain code = .ok chain →
        ∀ language ∈ chain, registry.localText? language.code key = none)
      (hmode : registry.mode = .passthrough)
      (hundefined : ∀ place ∈ pattern.placeholders,
        values[place.2.name]? = some .undefined → shown place.1 = braced place.2.name)
      (hformat : ∀ place ∈ pattern.placeholders, ∀ value, values[place.2.name]? = some value →
        value ≠ .undefined → shown place.1 = place.2.domain.format value) :
      Renders registry code source values (.ok (replaceFragments shown source))
  | untranslated {pattern : Pattern} {key : String}
      (parsed : Pattern.Parsed registry.languages code source pattern)
      (hkey : pattern.lookupKey values = .ok key)
      (hnone : ∀ chain, registry.languages.chain code = .ok chain →
        ∀ language ∈ chain, registry.localText? language.code key = none)
      (hmode : registry.mode = .strict) :
      Renders registry code source values (.error (.untranslated key))

variable {registry : Registry} {code source : String} {values : Values} {language : Language}
  {pattern : Pattern}

theorem fst_render_of_pattern_eq_error (hlanguage : registry.language? code = some language)
    {error : Error} (hpattern : registry.pattern code source = .error error) (values : Values) :
    (registry.render code source values).1 = .error error := by
  unfold render rendering
  rw [language_eq_ok.2 hlanguage, hpattern]
  rfl

theorem fst_render_of_lookupKey_eq_error (hlanguage : registry.language? code = some language)
    (hpattern : registry.pattern code source = .ok pattern) {error : Error}
    (hkey : pattern.lookupKey values = .error error) :
    (registry.render code source values).1 = .error error := by
  unfold render
  rw [rendering_eq_outcome hlanguage hpattern, hkey]
  rfl

theorem fst_render_of_lookupKey (hlanguage : registry.language? code = some language)
    (hpattern : registry.pattern code source = .ok pattern) {key : String}
    (hkey : pattern.lookupKey values = .ok key) :
    (registry.render code source values).1 =
      (outcome registry.mode pattern values key (registry.translation? code key)).map (·.text) := by
  unfold render
  rw [rendering_eq_outcome hlanguage hpattern, hkey]
  rfl

theorem fst_render_of_renders (h : code ∈ registry.languages) {result : Except Error String}
    (hrenders : Renders registry code source values result) :
    (registry.render code source values).1 = result := by
  obtain ⟨language, hlanguage⟩ := exists_language_of_mem h
  cases hrenders with
  | misread hfirst =>
    exact fst_render_of_pattern_eq_error hlanguage (Pattern.parse_eq_error_iff.2 hfirst) values
  | refused parsed hfirst =>
    exact fst_render_of_lookupKey_eq_error hlanguage (Pattern.parse_eq_ok_iff.2 parsed)
      (Pattern.lookupKey_eq_error_iff.2 hfirst)
  | translated parsed hkey hchain hnearer htext =>
    rw [fst_render_of_lookupKey hlanguage (Pattern.parse_eq_ok_iff.2 parsed) hkey,
      translation?_eq_some_iff.2 ⟨_, _, _, hchain, hnearer, htext⟩]
    rfl
  | @passedThrough pattern key shown parsed hkey hnone hmode hundefined hformat =>
    rw [fst_render_of_lookupKey hlanguage (Pattern.parse_eq_ok_iff.2 parsed) hkey,
      translation?_eq_none_iff.2 hnone, hmode]
    have hshown : ∀ place ∈ pattern.placeholders, shown place.1 = place.2.sourceText values := by
      intro place hplace
      obtain ⟨value, hvalue⟩ := Pattern.exists_value_of_lookupKey hkey hplace
      by_cases hundef : value = .undefined
      · subst hundef
        rw [hundefined place hplace hvalue, Placeholder.sourceText_undefined hvalue]
      · rw [hformat place hplace value hvalue hundef, Placeholder.sourceText_eq hvalue hundef]
    exact congrArg Except.ok (parsed.passThrough_eq hshown)
  | untranslated parsed hkey hnone hmode =>
    rw [fst_render_of_lookupKey hlanguage (Pattern.parse_eq_ok_iff.2 parsed) hkey,
      translation?_eq_none_iff.2 hnone, hmode]
    rfl

end Phrasebook.Registry
