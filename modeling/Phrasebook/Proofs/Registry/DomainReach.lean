import Phrasebook.Proofs.Language.Nearest
import Phrasebook.Proofs.Registry.Representation

/-!
How far a domain reaches. Languages name their fallbacks by code, so a domain that is added to one
language is found at once from every language whose chain comes to it before another domain of that
name; no chain and no other look-up changes (`DomainAdded`).
-/
namespace Phrasebook

namespace Language

def redefine (target : String) (domain : Domain) (language : Language) : Language :=
  if language.code = target then language.updateDomain domain else language

variable {target : String} {domain : Domain}

@[simp] theorem code_redefine (language : Language) :
    (language.redefine target domain).code = language.code := by
  unfold redefine
  split <;> rfl

@[simp] theorem fallback_redefine (language : Language) :
    (language.redefine target domain).fallback = language.fallback := by
  unfold redefine
  split <;> rfl

theorem localDomain?_redefine (language : Language) (name : String) :
    (language.redefine target domain).localDomain? name =
      if language.code = target ∧ domain.name = name then some domain
      else language.localDomain? name := by
  unfold redefine
  by_cases hcode : language.code = target <;> simp [hcode]

end Language

namespace Registry

variable {registry registry' : Registry} {target : String} {domain : Domain}

/-- What an added domain changes, and that nothing else changes. -/
structure DomainAdded (registry registry' : Registry) (target : String) (domain : Domain) :
    Prop where
  fallbackChain : ∀ code, registry'.fallbackChain code = registry.fallbackChain code
  resolved : ∀ code chain, registry.languages.chain code = .ok chain →
    Languages.Unshadowed (·.Defines domain.name) target chain →
    registry'.languages.resolveDomain code domain.name = .ok domain
  unresolved : ∀ code name,
    (name = domain.name → ∀ chain, registry.languages.chain code = .ok chain →
      ¬ Languages.Unshadowed (·.Defines name) target chain) →
    registry'.languages.resolveDomain code name = registry.languages.resolveDomain code name
  language : ∀ language, registry.language? target = some language →
    ∃ domains, registry'.language? target = some { language with domains } ∧
      Language.Placed domain language.domains domains
  others : ∀ code, code ≠ target → registry'.language? code = registry.language? code
  catalogs : registry'.catalogs = registry.catalogs
  mode : registry'.mode = registry.mode
  metrics : registry'.metrics = registry.metrics

theorem language?_of_updateDomain (hwell : registry.WellFormed)
    (h : registry.updateDomain target domain = .ok registry') (code : String) :
    registry'.language? code = (registry.language? code).map (·.redefine target domain) := by
  obtain ⟨language, hlanguage, rfl⟩ := eq_of_updateDomain h
  have hinsert : language? { registry with
      languages := registry.languages.insert target (language.updateDomain domain) } code =
      if target = code then some (language.updateDomain domain) else registry.language? code := by
    simp [language?, Std.ExtTreeMap.getElem?_insert]
  rw [hinsert]
  by_cases hcode : target = code
  · subst hcode
    rw [if_pos rfl, hlanguage, Option.map_some, Language.redefine,
      if_pos (hwell.code_eq target language hlanguage)]
  · rw [if_neg hcode]
    cases hother : registry.language? code with
    | none => rfl
    | some other =>
      have hne : other.code ≠ target := by
        rw [hwell.code_eq code other hother]
        exact Ne.symm hcode
      rw [Option.map_some, Language.redefine, if_neg hne]

theorem chain_of_updateDomain (hwell : registry.WellFormed)
    (h : registry.updateDomain target domain = .ok registry') (code : String) :
    registry'.languages.chain code =
      (registry.languages.chain code).map (List.map (·.redefine target domain)) := by
  have hlanguage := language?_of_updateDomain hwell h
  refine Languages.chain_of_revised (fun other _ => ?_) (hlanguage code)
  unfold Languages.parent?
  rw [Language.fallback_redefine, Option.map_bind]
  exact Option.bind_congr fun fallback _ => hlanguage fallback

theorem fallbackChain_of_updateDomain (hwell : registry.WellFormed)
    (h : registry.updateDomain target domain = .ok registry') (code : String) :
    registry'.fallbackChain code = registry.fallbackChain code := by
  unfold fallbackChain
  rw [chain_of_updateDomain hwell h]
  cases registry.languages.chain code with
  | error => rfl
  | ok chain =>
    refine congrArg Except.ok ?_
    rw [List.map_map]
    exact List.map_congr_left fun language _ => language.code_redefine

theorem resolveDomain_of_updateDomain (hwell : registry.WellFormed)
    (h : registry.updateDomain target domain = .ok registry') {code : String}
    {chain : List Language} (hchain : registry.languages.chain code = .ok chain) (name : String) :
    registry'.languages.resolveDomain code name = Languages.searched code name
      (chain.findSome? fun language => (language.redefine target domain).localDomain? name) := by
  have hchain' := chain_of_updateDomain hwell h code
  rw [hchain] at hchain'
  rw [Languages.resolveDomain_of_chain hchain', List.findSome?_map]
  rfl

theorem domainAdded_of_updateDomain (hwell : registry.WellFormed)
    (h : registry.updateDomain target domain = .ok registry') :
    DomainAdded registry registry' target domain where
  fallbackChain := fallbackChain_of_updateDomain hwell h
  resolved code chain hchain hunshadowed := by
    have htarget (language : Language) (hcode : language.code = target) :
        (language.redefine target domain).localDomain? domain.name = some domain := by
      rw [Language.localDomain?_redefine, if_pos ⟨hcode, rfl⟩]
    have hother (language : Language) (hcode : language.code ≠ target) :
        (language.redefine target domain).localDomain? domain.name =
          language.localDomain? domain.name := by
      rw [Language.localDomain?_redefine, if_neg fun hboth => hcode hboth.1]
    rw [resolveDomain_of_updateDomain hwell h hchain, Languages.findSome?_of_unshadowed
      (fun language => Language.localDomain?_eq_none) htarget hother hunshadowed]
    rfl
  unresolved code name hnot := by
    cases hchain : registry.languages.chain code with
    | error error =>
      have hchain' := chain_of_updateDomain hwell h code
      rw [hchain] at hchain'
      rw [Languages.resolveDomain_of_chain_eq_error hchain,
        Languages.resolveDomain_of_chain_eq_error hchain']
    | ok chain =>
      rw [resolveDomain_of_updateDomain hwell h hchain, Languages.resolveDomain_of_chain hchain]
      by_cases hname : name = domain.name
      · rw [Languages.findSome?_of_not_unshadowed (fun language => Language.localDomain?_eq_none)
          (fun language hcode => by
            rw [Language.localDomain?_redefine, if_neg fun hboth => hcode hboth.1])
          (hnot hname chain hchain)]
      · have hneither (language : Language) : ¬ (language.code = target ∧ domain.name = name) :=
          fun hboth => hname hboth.2.symm
        simp only [Language.localDomain?_redefine, if_neg (hneither _)]
  language language hlanguage := by
    refine ⟨Language.putDomain domain language.domains, ?_,
      Language.placed_putDomain domain (hwell.built target language hlanguage).nodup_names⟩
    rw [language?_of_updateDomain hwell h, hlanguage, Option.map_some, Language.redefine,
      if_pos (hwell.code_eq target language hlanguage), Language.updateDomain]
  others code hne := by
    obtain ⟨language, -, rfl⟩ := eq_of_updateDomain h
    simp [language?, Std.ExtTreeMap.getElem?_insert, hne.symm]
  catalogs := by
    obtain ⟨language, -, rfl⟩ := eq_of_updateDomain h
    rfl
  mode := by
    obtain ⟨language, -, rfl⟩ := eq_of_updateDomain h
    rfl
  metrics := by
    obtain ⟨language, -, rfl⟩ := eq_of_updateDomain h
    rfl

/-- A name is looked up in the nearest language that defines it, and an added domain is found
exactly where this is the language that got it. -/
theorem reach_of_updateDomain (h : Reachable registry) (target : String) (domain : Domain) :
    (∀ code name found, registry.languages.resolveDomain code name = .ok found ↔
      ∃ nearer language further, registry.languages.chain code =
          .ok (nearer ++ language :: further) ∧
        (∀ other ∈ nearer, ¬ other.Defines name) ∧ found ∈ language.domains ∧
        found.name = name) ∧
      (∀ code name error, registry.languages.resolveDomain code name = .error error ↔
        registry.languages.chain code = .error error ∨
          ∃ chain, registry.languages.chain code = .ok chain ∧
            (∀ language ∈ chain, ¬ language.Defines name) ∧
            error = .unsupportedDomain name code) ∧
      (target ∈ registry.languages → ∃ registry',
        registry.updateDomain target domain = .ok registry' ∧
          DomainAdded registry registry' target domain) ∧
      (target ∉ registry.languages →
        registry.updateDomain target domain = .error (.unknownLanguage target) ∧
          registry.updated (registry.updateDomain target domain) = registry) := by
  have hwell := wellFormed_of_reachable h
  have hbuilt (language : Language) (hknown : registry.languages.Knows language) :
      language.Built := by
    obtain ⟨code, hcode⟩ := hknown
    exact hwell.built code language hcode
  refine ⟨?_, ?_, ?_, ?_⟩
  · intro code name found
    exact Languages.resolveDomain_eq_ok_iff hbuilt
  · intro code name error
    exact Languages.resolveDomain_eq_error_iff
  · intro hmem
    obtain ⟨registry', hupdate⟩ := updateDomain_of_mem hmem domain
    exact ⟨registry', hupdate, domainAdded_of_updateDomain hwell hupdate⟩
  · intro hmem
    have hupdate := updateDomain_of_not_mem hmem domain
    rw [hupdate]
    exact ⟨rfl, rfl⟩

/-- A gender that is added to the root is found from English, but not from Austrian German, which
comes to the German one first. -/
theorem reach_of_updateDomain_root :
    Reachable (standard .passthrough) ∧ "root" ∈ (standard .passthrough).languages ∧
      ∃ registry', (standard .passthrough).updateDomain "root" (Standard.gender Value.display) =
          .ok registry' ∧
        registry'.languages.resolveDomain "en" "gender" = .ok (Standard.gender Value.display) ∧
        registry'.languages.resolveDomain "de_AT" "gender" =
          .ok (Standard.gender Standard.germanGender) := by
  have hmem : "root" ∈ (standard .passthrough).languages := by decide +kernel
  obtain ⟨registry', hupdate, hadded⟩ := (reach_of_updateDomain (.standard .passthrough) "root"
    (Standard.gender Value.display)).2.2.1 hmem
  refine ⟨.standard .passthrough, hmem, registry', hupdate, ?_, ?_⟩
  · have hunshadowed : ∃ chain, (standard .passthrough).languages.chain "en" = .ok chain ∧
        Languages.Unshadowed (·.Defines "gender") "root" chain :=
      ⟨_, rfl, by decide⟩
    obtain ⟨chain, hchain, hunshadowed⟩ := hunshadowed
    exact hadded.resolved "en" chain hchain hunshadowed
  · have hshadowed : ∃ chain, (standard .passthrough).languages.chain "de_AT" = .ok chain ∧
        ¬ Languages.Unshadowed (·.Defines "gender") "root" chain :=
      ⟨_, rfl, by decide⟩
    obtain ⟨found, hfound, hshadowed⟩ := hshadowed
    refine (hadded.unresolved "de_AT" "gender" fun _ chain hchain => ?_).trans rfl
    obtain rfl := Except.ok.inj (hfound.symm.trans hchain)
    exact hshadowed

end Registry

end Phrasebook
