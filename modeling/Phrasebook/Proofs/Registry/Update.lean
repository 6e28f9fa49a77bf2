import Phrasebook.Registry.Basic

/-!
What an update makes of a registry. Each update asks for a known language, fails if there is none,
and then writes to one place.
-/
namespace Phrasebook.Registry

variable {registry registry' : Registry} {target : String}

theorem exists_language_of_mem (h : target ∈ registry.languages) :
    ∃ language, registry.language? target = some language :=
  ⟨_, Std.ExtTreeMap.getElem?_eq_some_getElem h⟩

section

variable {α : Type} (next : Language → Except Error α)

theorem language_bind_of_language? {language : Language}
    (h : registry.language? target = some language) :
    registry.language target >>= next = next language := by
  rw [language_eq_ok.2 h]
  rfl

theorem language_bind_of_not_mem (h : target ∉ registry.languages) :
    registry.language target >>= next = .error (.unknownLanguage target) := by
  unfold Registry.language language?
  rw [Std.ExtTreeMap.getElem?_eq_none h]
  rfl

end

theorem exists_of_language_bind {α : Type} {next : Language → Except Error α} {result : α}
    (h : registry.language target >>= next = .ok result) :
    ∃ language, registry.language? target = some language ∧ next language = .ok result := by
  obtain ⟨language, hlanguage, heq⟩ := exists_of_bind_eq_ok h
  exact ⟨language, language_eq_ok.1 hlanguage, heq⟩

theorem extendLanguage_of_language? {language : Language}
    (h : registry.language? target = some language) (code : String) :
    registry.extendLanguage target code = .ok (registry.register (language.extend code)) :=
  language_bind_of_language? _ h

theorem eq_of_extendLanguage {code : String}
    (h : registry.extendLanguage target code = .ok registry') :
    ∃ language, registry.language? target = some language ∧
      registry' = registry.register (language.extend code) := by
  obtain ⟨language, hlanguage, heq⟩ := exists_of_language_bind h
  exact ⟨language, hlanguage, (Except.ok.inj heq).symm⟩

theorem eq_of_updateDomain {domain : Domain}
    (h : registry.updateDomain target domain = .ok registry') :
    ∃ language, registry.language? target = some language ∧
      registry' = { registry with
        languages := registry.languages.insert target (language.updateDomain domain) } := by
  obtain ⟨language, hlanguage, heq⟩ := exists_of_language_bind h
  exact ⟨language, hlanguage, (Except.ok.inj heq).symm⟩

theorem updateDomain_of_mem (h : target ∈ registry.languages) (domain : Domain) :
    ∃ registry', registry.updateDomain target domain = .ok registry' := by
  obtain ⟨language, hlanguage⟩ := exists_language_of_mem h
  exact ⟨_, language_bind_of_language? _ hlanguage⟩

theorem updateDomain_of_not_mem (h : target ∉ registry.languages) (domain : Domain) :
    registry.updateDomain target domain = .error (.unknownLanguage target) :=
  language_bind_of_not_mem _ h

section

variable {pairs : List (String × String)}

def putTexts (registry : Registry) (target : String) (pairs : List (String × String)) : Registry :=
  { registry with
    catalogs := registry.catalogs.insert target
      (((registry.catalog? target).getD ∅).merge pairs) }

@[simp] theorem languages_putTexts (registry : Registry) (target : String)
    (pairs : List (String × String)) :
    (registry.putTexts target pairs).languages = registry.languages :=
  rfl

theorem catalog?_putTexts (registry : Registry) (target : String) (pairs : List (String × String))
    (code : String) :
    (registry.putTexts target pairs).catalog? code =
      if target = code then some (((registry.catalog? code).getD ∅).merge pairs)
      else registry.catalog? code := by
  simp only [putTexts, catalog?, Std.ExtTreeMap.getElem?_insert,
    Std.LawfulEqCmp.compare_eq_iff_eq]
  split
  · next hcode => rw [hcode]
  · rfl

theorem updateTranslations_of_mem (h : target ∈ registry.languages)
    (pairs : List (String × String)) :
    registry.updateTranslations target pairs = .ok (registry.putTexts target pairs) := by
  obtain ⟨language, hlanguage⟩ := exists_language_of_mem h
  exact language_bind_of_language? _ hlanguage

theorem updateTranslations_of_not_mem (h : target ∉ registry.languages)
    (pairs : List (String × String)) :
    registry.updateTranslations target pairs = .error (.unknownLanguage target) :=
  language_bind_of_not_mem _ h

theorem exists_of_updateTranslations
    (h : registry.updateTranslations target pairs = .ok registry') :
    ∃ language, registry.language? target = some language := by
  obtain ⟨language, hlanguage, -⟩ := exists_of_language_bind h
  exact ⟨language, hlanguage⟩

theorem eq_of_updateTranslations (h : registry.updateTranslations target pairs = .ok registry') :
    registry' = registry.putTexts target pairs := by
  obtain ⟨language, -, heq⟩ := exists_of_language_bind h
  exact (Except.ok.inj heq).symm

theorem languages_of_updateTranslations
    (h : registry.updateTranslations target pairs = .ok registry') :
    registry'.languages = registry.languages := by
  rw [eq_of_updateTranslations h, languages_putTexts]

theorem mode_of_updateTranslations
    (h : registry.updateTranslations target pairs = .ok registry') :
    registry'.mode = registry.mode := by
  rw [eq_of_updateTranslations h]
  rfl

theorem metrics_of_updateTranslations
    (h : registry.updateTranslations target pairs = .ok registry') :
    registry'.metrics = registry.metrics := by
  rw [eq_of_updateTranslations h]
  rfl

theorem catalog?_of_updateTranslations
    (h : registry.updateTranslations target pairs = .ok registry') (code : String) :
    registry'.catalog? code =
      if target = code then some (((registry.catalog? code).getD ∅).merge pairs)
      else registry.catalog? code := by
  rw [eq_of_updateTranslations h, catalog?_putTexts]

end

end Phrasebook.Registry
