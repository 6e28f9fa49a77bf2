import Phrasebook.Proofs.Registry.TextReach

/-!
Entries without text. Rendering takes an empty text for a translation: where the search for the
selected key comes to a new empty entry, the result is empty, whatever it was before
(`render_of_consults`); everywhere else it stays as it was (`render_of_not_consults`).
-/
namespace Phrasebook

@[simp] theorem Pattern.fill_empty (pattern : Pattern) (values : Values) :
    pattern.fill values "" = "" :=
  rfl

namespace Registry

/-- The search along the chain comes to the target before it comes to an entry for the key. -/
def Reaches (registry : Registry) (target key : String) : List Language → Prop
  | [] => False
  | language :: further =>
    language.code = target ∨
      registry.localText? language.code key = none ∧ registry.Reaches target key further

/-- The rendering asks for the text of the key in the catalog of the target. -/
def Consults (registry : Registry) (code source : String) (values : Values)
    (target key : String) : Prop :=
  ∃ chain pattern, registry.languages.chain code = .ok chain ∧
    registry.Reaches target key chain ∧ registry.pattern code source = .ok pattern ∧
    pattern.lookupKey values = .ok key

variable {registry registry' : Registry} {target key text : String}

theorem reaches_iff_unshadowed {chain : List Language} :
    registry.Reaches target key chain ↔
      Languages.Unshadowed (registry.HasText key) target chain := by
  induction chain with
  | nil => simp [Reaches, Languages.unshadowed_nil]
  | cons language further ih =>
    rw [Reaches, Languages.unshadowed_cons, ih, localText?_eq_none]

theorem render_of_not_consults
    (h : registry.updateTranslations target [(key, text)] = .ok registry')
    {code source : String} {values : Values}
    (hconsults : ¬ registry.Consults code source values target key) :
    (registry'.render code source values).1 = (registry.render code source values).1 := by
  have hlanguages := languages_of_updateTranslations h
  unfold render
  rw [rendering_congr hlanguages (mode_of_updateTranslations h)]
  intro pattern selected hpattern hselected
  apply translation?_congr (by rw [hlanguages])
  intro chain hchain
  apply nearest?_of_not_unshadowed h
  intro hmem hunshadowed
  obtain rfl : selected = key := by simpa using hmem
  exact hconsults ⟨chain, pattern, hchain, reaches_iff_unshadowed.2 hunshadowed, hpattern,
    hselected⟩

theorem render_of_consults
    (h : registry.updateTranslations target [(key, "")] = .ok registry')
    {code source : String} {values : Values}
    (hconsults : registry.Consults code source values target key) :
    (registry'.render code source values).1 = .ok "" := by
  obtain ⟨chain, pattern, hchain, hreaches, hpattern, hkey⟩ := hconsults
  have hlanguages := languages_of_updateTranslations h
  rw [← hlanguages] at hchain
  have hpattern' : registry'.pattern code source = .ok pattern := by
    unfold Registry.pattern
    rw [hlanguages]
    exact hpattern
  have htext : registry'.translation? code key = some "" := by
    rw [translation?_of_chain hchain, nearest?_of_unshadowed h
      (Catalog.lastText?_of_last [] "" List.not_mem_nil) (reaches_iff_unshadowed.1 hreaches)]
  obtain ⟨language, hlanguage⟩ := Languages.exists_of_chain hchain
  rw [render_of_translation? hlanguage hpattern' hkey htext]
  exact congrArg Except.ok (pattern.fill_empty values)

/-- An empty entry changes exactly the renderings that consult it and were not empty before. -/
theorem render_eq_iff_of_empty_entry
    (h : registry.updateTranslations target [(key, "")] = .ok registry')
    (code source : String) (values : Values) :
    ((registry'.render code source values).1 = (registry.render code source values).1 ↔
        (registry.Consults code source values target key →
          (registry.render code source values).1 = .ok "")) ∧
      (registry.Consults code source values target key →
        (registry'.render code source values).1 = .ok "") := by
  refine ⟨⟨?_, ?_⟩, render_of_consults h⟩
  · intro heq hconsults
    rw [← heq]
    exact render_of_consults h hconsults
  · intro hempty
    by_cases hconsults : registry.Consults code source values target key
    · rw [render_of_consults h hconsults, hempty hconsults]
    · exact render_of_not_consults h hconsults

theorem render_eq_iff_of_empty_entry_german :
    ∃ registry registry',
      (standard .passthrough).updateTranslations "de" [("Hello", "Hallo")] = .ok registry ∧
      registry.updateTranslations "de_AT" [("Hello", "")] = .ok registry' ∧
      (registry.render "de_AT" "Hello" ∅).1 = .ok "Hallo" ∧
      (registry'.render "de_AT" "Hello" ∅).1 ≠ (registry.render "de_AT" "Hello" ∅).1 := by
  have hconsults : ∃ registry registry',
      (standard .passthrough).updateTranslations "de" [("Hello", "Hallo")] = .ok registry ∧
      registry.updateTranslations "de_AT" [("Hello", "")] = .ok registry' ∧
      (registry.render "de_AT" "Hello" ∅).1 = .ok "Hallo" ∧
      registry.Consults "de_AT" "Hello" ∅ "de_AT" "Hello" :=
    ⟨_, _, rfl, rfl, rfl, _, _, rfl, Or.inl rfl, rfl, rfl⟩
  obtain ⟨registry, registry', hregistry, hupdate, hrender, hconsults⟩ := hconsults
  refine ⟨registry, registry', hregistry, hupdate, hrender, ?_⟩
  intro heq
  have hempty := (render_eq_iff_of_empty_entry hupdate "de_AT" "Hello" ∅).1.1 heq hconsults
  rw [hrender] at hempty
  contradiction

/-- A new empty entry hides the text of an ancestor, the pattern itself, and an error. -/
theorem empty_entry_is_rendered :
    (∃ registry registry',
      (standard .passthrough).updateTranslations "de" [("Hello", "Hallo")] = .ok registry ∧
      registry.localText? "de_AT" "Hello" = none ∧
      registry.updateTranslations "de_AT" [("Hello", "")] = .ok registry' ∧
      (registry.render "de_AT" "Hello" ∅).1 = .ok "Hallo" ∧
      (registry'.render "de_AT" "Hello" ∅).1 = .ok "") ∧
    (∃ registry', (standard .passthrough).localText? "en" "Hello" = none ∧
      (standard .passthrough).updateTranslations "en" [("Hello", "")] = .ok registry' ∧
      ((standard .passthrough).render "en" "Hello" ∅).1 = .ok "Hello" ∧
      (registry'.render "en" "Hello" ∅).1 = .ok "") ∧
    ∃ registry', (standard .strict).localText? "en" "Hello" = none ∧
      (standard .strict).updateTranslations "en" [("Hello", "")] = .ok registry' ∧
      ((standard .strict).render "en" "Hello" ∅).1 = .error (.untranslated "Hello") ∧
      (registry'.render "en" "Hello" ∅).1 = .ok "" :=
  ⟨⟨_, _, rfl, rfl, rfl, rfl, rfl⟩, ⟨_, rfl, rfl, rfl, rfl⟩, _, rfl, rfl, rfl, rfl⟩

end Registry

end Phrasebook
