import Phrasebook.Proofs.Language.Nearest
import Phrasebook.Proofs.Number.Whole

/-!
Numbers in the languages that come with the library. All of them tell one from the other whole
numbers, and the root tells zero as well (`Standard.exists_classify_number`); none of them writes a
number in a way of its own. This holds wherever these languages are known as they come, whatever
other languages there are (`resolveDomain_of_hasStandard`).
-/
namespace Phrasebook

namespace Languages

def HasStandard (languages : Languages) : Prop :=
  ∀ language ∈ Standard.languages, languages[language.code]? = some language

theorem hasStandard_ofLanguages : (ofLanguages Standard.languages).HasStandard := by
  intro language h
  simp only [Standard.languages, List.mem_cons, List.not_mem_nil, or_false] at h
  rcases h with rfl | rfl | rfl | rfl | rfl <;> rfl

theorem mem_standard_of_knows {language : Language}
    (h : (ofLanguages Standard.languages).Knows language) : language ∈ Standard.languages := by
  obtain ⟨code, hcode⟩ := h
  rcases getElem?_foldl_add hcode with hmem | hempty
  · exact hmem
  · simp at hempty

theorem exists_fallback_standard {language : Language} (h : language ∈ Standard.languages) :
    language.fallback = none ∨
      ∃ parent ∈ Standard.languages, language.fallback = some parent.code := by
  have hroot : Standard.root ∈ Standard.languages := by simp [Standard.languages]
  have hgerman : Standard.german ∈ Standard.languages := by simp [Standard.languages]
  simp only [Standard.languages, List.mem_cons, List.not_mem_nil, or_false] at h
  rcases h with rfl | rfl | rfl | rfl | rfl
  · exact .inl rfl
  · exact .inr ⟨_, hroot, rfl⟩
  · exact .inr ⟨_, hroot, rfl⟩
  · exact .inr ⟨_, hgerman, rfl⟩
  · exact .inr ⟨_, hgerman, rfl⟩

variable {languages : Languages}

theorem parent?_of_hasStandard (hstandard : languages.HasStandard) {language : Language}
    (h : language ∈ Standard.languages) :
    languages.parent? language = (ofLanguages Standard.languages).parent? language := by
  unfold parent?
  rcases exists_fallback_standard h with hfallback | ⟨parent, hparent, hfallback⟩
  · rw [hfallback]
    rfl
  · rw [hfallback, Option.bind_some, Option.bind_some, hstandard parent hparent,
      hasStandard_ofLanguages parent hparent]

theorem chain_of_hasStandard (hstandard : languages.HasStandard) {language : Language}
    (h : language ∈ Standard.languages) :
    languages.chain language.code = (ofLanguages Standard.languages).chain language.code := by
  have hparent (other : Language) (hother : (ofLanguages Standard.languages).Knows other) :
      languages.parent? (id other) =
        ((ofLanguages Standard.languages).parent? other).map id := by
    rw [Option.map_id_apply]
    exact parent?_of_hasStandard hstandard (mem_standard_of_knows hother)
  have hcode : languages[language.code]? =
      (ofLanguages Standard.languages)[language.code]?.map id := by
    rw [hstandard language h, hasStandard_ofLanguages language h]
    rfl
  rw [chain_of_revised hparent hcode, List.map_id_fun]
  cases (ofLanguages Standard.languages).chain language.code <;> rfl

theorem resolveDomain_of_hasStandard (hstandard : languages.HasStandard) {language : Language}
    (h : language ∈ Standard.languages) (name : String) :
    languages.resolveDomain language.code name =
      (ofLanguages Standard.languages).resolveDomain language.code name := by
  unfold resolveDomain
  rw [chain_of_hasStandard hstandard h]

end Languages

namespace Standard

def numberDomain (code : String) : Domain :=
  if code = "root" then rootNumber else singularPlural

theorem resolveDomain_number {languages : Languages} (hstandard : languages.HasStandard)
    {language : Language} (h : language ∈ Standard.languages) :
    languages.resolveDomain language.code "number" = .ok (numberDomain language.code) := by
  rw [Languages.resolveDomain_of_hasStandard hstandard h]
  simp only [Standard.languages, List.mem_cons, List.not_mem_nil, or_false] at h
  rcases h with rfl | rfl | rfl | rfl | rfl <;> rfl

theorem format_numberDomain (code : String) (number : Number) :
    (numberDomain code).format (.number number) = number.text := by
  unfold numberDomain
  split <;> rfl

variable {k : Int}

theorem isNumber_ofInt : isNumber (.number (.ofInt k)) = true :=
  rfl

theorem isExactly_ofInt {l : Int} (hk : k.natAbs ≤ 2 ^ 53) (hl : l.natAbs ≤ 2 ^ 53) :
    isExactly l (.number (.ofInt k)) = decide (k = l) := by
  rw [Bool.eq_iff_iff, decide_eq_true_iff]
  exact Number.eq_ofInt_iff hk hl

theorem classify_rootNumber (hk : k.natAbs ≤ 2 ^ 53) :
    ∃ category, rootNumber.classify (.number (.ofInt k)) = .ok category ∧
      category.name = if k = 0 then "zero" else if k = 1 then "one" else "other" := by
  simp only [Domain.classify_eq_ok, Domain.category?, rootNumber, List.find?_cons,
    isExactly_ofInt hk (by decide : (0 : Int).natAbs ≤ 2 ^ 53),
    isExactly_ofInt hk (by decide : (1 : Int).natAbs ≤ 2 ^ 53), isNumber_ofInt]
  by_cases hzero : k = 0
  · simp [hzero]
  · by_cases hone : k = 1 <;> simp [hzero, hone]

theorem classify_singularPlural (hk : k.natAbs ≤ 2 ^ 53) :
    ∃ category, singularPlural.classify (.number (.ofInt k)) = .ok category ∧
      category.name = if k = 1 then "one" else "zero" := by
  simp only [Domain.classify_eq_ok, Domain.category?, singularPlural, List.find?_cons,
    isExactly_ofInt hk (by decide : (1 : Int).natAbs ≤ 2 ^ 53), isNumber_ofInt]
  by_cases hone : k = 1 <;> simp [hone]

/-- One is always told from the other numbers, and zero is in the root. Elsewhere the plural goes by
the name of `zero`. -/
theorem exists_classify_number (code : String) (hk : k.natAbs ≤ 2 ^ 53) :
    ∃ category, (numberDomain code).classify (.number (.ofInt k)) = .ok category ∧
      (category.name = "one" ↔ k = 1) ∧ (code = "root" → (category.name = "zero" ↔ k = 0)) := by
  unfold numberDomain
  split
  · obtain ⟨category, hclassify, hname⟩ := classify_rootNumber hk
    refine ⟨category, hclassify, ?_⟩
    rw [hname]
    by_cases hzero : k = 0
    · simp [hzero]
    · by_cases hone : k = 1 <;> simp [hzero, hone]
  · next hcode =>
    obtain ⟨category, hclassify, hname⟩ := classify_singularPlural hk
    refine ⟨category, hclassify, ?_, fun hroot => absurd hroot hcode⟩
    rw [hname]
    by_cases hone : k = 1 <;> simp [hone]

end Standard

end Phrasebook
