import Phrasebook.Proofs.Language.Resolution
import Phrasebook.Proofs.Pattern.Faults
import Phrasebook.Registry.Rendering

/-!
What a rendering comes to: the values select a key, the chain is searched for its text, and the
mode decides what happens if there is none (`rendering_eq_outcome`).
-/
namespace Phrasebook

namespace Error

def IsAboutValues : Error → Prop
  | missingValue _ => True
  | notCovered _ _ _ => True
  | _ => False

end Error

theorem Placeholder.Refuses.isAboutValues {placeholder : Placeholder} {values : Values}
    {error : Error} (h : placeholder.Refuses values error) : error.IsAboutValues := by
  cases h <;> trivial

theorem Pattern.isAboutValues_of_selectKey {values : Values} {key : String}
    {places : List (String × Placeholder)} {error : Error}
    (h : selectKey values key places = .error error) : error.IsAboutValues := by
  obtain ⟨front, place, back, -, -, hrefuses⟩ := selectKey_eq_error_iff.1 h
  exact hrefuses.isAboutValues

namespace Registry

def localText? (registry : Registry) (code key : String) : Option String := do
  (← registry.catalog? code)[key]?

def nearest? (registry : Registry) (key : String) (chain : List Language) : Option String :=
  chain.findSome? fun language => registry.localText? language.code key

def outcome (mode : RenderMode) (pattern : Pattern) (values : Values) (key : String) :
    Option String → Except Error Rendering
  | some template => .ok { text := pattern.fill values template, key, translated := true }
  | none =>
    match mode with
    | .passthrough => .ok { text := pattern.passThrough values, key, translated := false }
    | .strict => .error (.untranslated key)

variable {registry : Registry} {code source : String} {pattern : Pattern}

theorem translation?_of_chain {chain : List Language}
    (h : registry.languages.chain code = .ok chain) (key : String) :
    registry.translation? code key = registry.nearest? key chain := by
  unfold translation?
  rw [h]
  rfl

theorem translation?_eq_some_iff {key text : String} :
    registry.translation? code key = some text ↔
      ∃ nearer language further,
        registry.languages.chain code = .ok (nearer ++ language :: further) ∧
        (∀ other ∈ nearer, registry.localText? other.code key = none) ∧
        registry.localText? language.code key = some text := by
  cases hchain : registry.languages.chain code with
  | error error => simp [translation?, hchain]
  | ok chain =>
    rw [translation?_of_chain hchain, nearest?, List.findSome?_eq_some_iff]
    constructor
    · rintro ⟨nearer, language, further, rfl, htext, hnearer⟩
      exact ⟨nearer, language, further, rfl, hnearer, htext⟩
    · rintro ⟨nearer, language, further, heq, hnearer, htext⟩
      exact ⟨nearer, language, further, Except.ok.inj heq, htext, hnearer⟩

theorem translation?_eq_none_iff {key : String} :
    registry.translation? code key = none ↔
      ∀ chain, registry.languages.chain code = .ok chain →
        ∀ language ∈ chain, registry.localText? language.code key = none := by
  cases hchain : registry.languages.chain code with
  | error error => simp [translation?, hchain]
  | ok chain => simp [translation?_of_chain hchain, nearest?]

theorem translation?_congr {registry' : Registry} {key : String}
    (hchain : registry'.languages.chain code = registry.languages.chain code)
    (h : ∀ chain, registry.languages.chain code = .ok chain →
      registry'.nearest? key chain = registry.nearest? key chain) :
    registry'.translation? code key = registry.translation? code key := by
  cases hfound : registry.languages.chain code with
  | error error =>
    unfold translation?
    rw [hchain, hfound]
  | ok chain =>
    rw [translation?_of_chain hfound, translation?_of_chain (hchain.trans hfound), h chain hfound]

theorem rendering_eq_outcome {language : Language}
    (hlanguage : registry.language? code = some language)
    (hpattern : registry.pattern code source = .ok pattern) (values : Values) :
    registry.rendering code source values = (do
      let key ← pattern.lookupKey values
      outcome registry.mode pattern values key (registry.translation? code key)) := by
  unfold rendering
  rw [language_eq_ok.2 hlanguage, hpattern]
  simp only [bind, Except.bind, Pattern.render]
  cases pattern.lookupKey values with
  | error => rfl
  | ok key =>
    cases htext : registry.translation? code key with
    | some template => simp [outcome, htext, pure, Except.pure]
    | none =>
      cases hmode : registry.mode with
      | passthrough => simp [outcome, htext, pure, Except.pure]
      | strict => simp [outcome, htext, pure, Except.pure, throw, throwThe, MonadExceptOf.throw]

theorem render_of_translation? {language : Language}
    (hlanguage : registry.language? code = some language)
    (hpattern : registry.pattern code source = .ok pattern) {values : Values} {key text : String}
    (hkey : pattern.lookupKey values = .ok key)
    (htext : registry.translation? code key = some text) :
    registry.render code source values = (.ok (pattern.fill values text),
      { registry with metrics := registry.metrics.countHit }) := by
  rw [render, rendering_eq_outcome hlanguage hpattern values, hkey]
  simp only [bind, Except.bind]
  rw [htext]
  rfl

theorem rendering_congr {registry' : Registry} {values : Values}
    (hlanguages : registry'.languages = registry.languages) (hmode : registry'.mode = registry.mode)
    (h : ∀ pattern key, registry.pattern code source = .ok pattern →
      pattern.lookupKey values = .ok key →
        registry'.translation? code key = registry.translation? code key) :
    registry'.rendering code source values = registry.rendering code source values := by
  have hlanguage : registry'.language? code = registry.language? code := by
    unfold language?
    rw [hlanguages]
  have hpattern : registry'.pattern code source = registry.pattern code source := by
    unfold Registry.pattern
    rw [hlanguages]
  cases hknown : registry.language? code with
  | none =>
    unfold rendering Registry.language
    rw [hlanguage, hknown]
    rfl
  | some language =>
    cases hread : registry.pattern code source with
    | error error =>
      unfold rendering Registry.language
      rw [hlanguage, hknown, hpattern, hread]
      rfl
    | ok pattern =>
      rw [rendering_eq_outcome hknown hread,
        rendering_eq_outcome (hlanguage.trans hknown) (hpattern.trans hread), hmode]
      cases hkey : pattern.lookupKey values with
      | error error => rfl
      | ok key =>
        simp only [bind, Except.bind]
        rw [h pattern key hread hkey]

end Registry

end Phrasebook
