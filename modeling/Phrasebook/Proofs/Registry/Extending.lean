import Phrasebook.Proofs.Language.Chain
import Phrasebook.Proofs.Language.Nearest
import Phrasebook.Proofs.Pattern.Transfer
import Phrasebook.Proofs.Registry.Outcome
import Phrasebook.Proofs.Registry.Representation

/-!
New languages. A language that extends another one shows everything as its parent does, as long as
its chain keeps to the limit, and no other language shows that it is there.
-/
namespace Phrasebook

/-- The same error, about this language where it is about one that does not know a domain. -/
def Error.unsupportedIn (code : String) : Error → Error
  | .unsupportedDomain domain _ => .unsupportedDomain domain code
  | error => error

@[simp] theorem mapError_id {α : Type} (result : Except Error α) : result.mapError id = result := by
  cases result <;> rfl

namespace Registry

/-- One registry shows for a known code what another one shows for a known code of its own, up to
how it tells that a domain is not supported. -/
structure Mirrors (tell : Error → Error) (registry : Registry) (code : String)
    (registry' : Registry) (code' : String) : Prop where
  tells : ∀ error, (∀ domain language, error ≠ .unsupportedDomain domain language) →
    tell error = error
  known : ∃ language, registry.language? code = some language
  known' : ∃ language, registry'.language? code' = some language
  mode : registry'.mode = registry.mode
  resolveDomain : ∀ name, registry'.languages.resolveDomain code' name =
    (registry.languages.resolveDomain code name).mapError tell
  translation : ∀ key, registry'.translation? code' key = registry.translation? code key

namespace Mirrors

variable {tell : Error → Error} {registry registry' : Registry} {code code' : String}

theorem tell_of_isAboutValues (h : Mirrors tell registry code registry' code') {error : Error}
    (habout : error.IsAboutValues) : tell error = error := by
  apply h.tells
  rintro domain language rfl
  exact habout

theorem pattern (h : Mirrors tell registry code registry' code') (source : String) :
    registry'.pattern code' source =
      ((registry.pattern code source).mapError tell).map ({ · with language := code' }) :=
  Pattern.parse_of_mapError (fun _ _ => h.tells _ (by simp)) h.resolveDomain source

theorem translationKeys (h : Mirrors tell registry code registry' code') (source : String) :
    registry'.translationKeys code' source =
      (registry.translationKeys code source).mapError tell := by
  unfold Registry.translationKeys
  rw [h.pattern]
  cases registry.pattern code source <;> rfl

theorem outcome_mapError (h : Mirrors tell registry code registry' code') (mode : RenderMode)
    (pattern : Pattern) (values : Values) (key : String) (text : Option String) :
    (outcome mode pattern values key text).mapError tell =
      outcome mode pattern values key text := by
  cases text with
  | some template => rfl
  | none =>
    cases mode with
    | passthrough => rfl
    | strict => exact congrArg Except.error (h.tells _ (by simp))

theorem rendering (h : Mirrors tell registry code registry' code') (source : String)
    (values : Values) :
    registry'.rendering code' source values =
      (registry.rendering code source values).mapError tell := by
  obtain ⟨language, hlanguage⟩ := h.known
  obtain ⟨language', hlanguage'⟩ := h.known'
  have hpattern' := h.pattern source
  cases hpattern : registry.pattern code source with
  | error error =>
    rw [hpattern] at hpattern'
    unfold Registry.rendering
    rw [language_eq_ok.2 hlanguage, language_eq_ok.2 hlanguage', hpattern, hpattern']
    rfl
  | ok pattern =>
    rw [hpattern] at hpattern'
    rw [rendering_eq_outcome hlanguage hpattern, rendering_eq_outcome hlanguage' hpattern', h.mode]
    have hselected : Pattern.lookupKey { pattern with language := code' } values =
        pattern.lookupKey values :=
      rfl
    rw [hselected]
    cases hkey : pattern.lookupKey values with
    | error error =>
      exact congrArg Except.error
        (h.tell_of_isAboutValues (Pattern.isAboutValues_of_selectKey hkey)).symm
    | ok key =>
      simp only [bind, Except.bind]
      rw [h.translation, h.outcome_mapError]
      rfl

theorem render (h : Mirrors tell registry code registry' code') (source : String)
    (values : Values) :
    (registry'.render code' source values).1 =
      (registry.render code source values).1.mapError tell := by
  unfold Registry.render
  rw [h.rendering]
  cases registry.rendering code source values <;> rfl

end Mirrors

structure Fresh (registry : Registry) (code : String) : Prop where
  unknown : registry.language? code = none
  unnamed : ∀ other language, registry.language? other = some language →
    language.fallback ≠ some code

structure SameResults (registry registry' : Registry) (code : String) : Prop where
  language : registry'.language? code = registry.language? code
  catalog : registry'.catalog? code = registry.catalog? code
  fallbackChain : registry'.fallbackChain code = registry.fallbackChain code
  resolveDomain : ∀ name,
    registry'.languages.resolveDomain code name = registry.languages.resolveDomain code name
  pattern : ∀ source, registry'.pattern code source = registry.pattern code source
  translationKeys : ∀ source,
    registry'.translationKeys code source = registry.translationKeys code source
  translation : ∀ key, registry'.translation? code key = registry.translation? code key
  render : ∀ source values,
    (registry'.render code source values).1 = (registry.render code source values).1
  renderJson : ∀ source values,
    (registry'.renderJson code source values).1 = (registry.renderJson code source values).1

theorem SameResults.of_mirrors {registry registry' : Registry} {code : String}
    (h : Mirrors id registry code registry' code)
    (hlanguage : registry'.language? code = registry.language? code)
    (hcatalog : registry'.catalog? code = registry.catalog? code)
    (hchain : registry'.languages.chain code = registry.languages.chain code) :
    SameResults registry registry' code where
  language := hlanguage
  catalog := hcatalog
  fallbackChain := by
    unfold Registry.fallbackChain
    rw [hchain]
  resolveDomain name := by
    rw [h.resolveDomain, mapError_id]
  pattern source := by
    rw [h.pattern, mapError_id]
    cases hpattern : registry.pattern code source with
    | error error => rfl
    | ok pattern =>
      have hcode := (Pattern.parsed_of_parse hpattern).language_eq
      exact congrArg (fun language => Except.ok { pattern with language }) hcode.symm
  translationKeys source := by
    rw [h.translationKeys, mapError_id]
  translation := h.translation
  render source values := by
    rw [h.render, mapError_id]
  renderJson source values := by
    unfold Registry.renderJson
    cases argumentsOfJson source values with
    | error error => rfl
    | ok arguments => simp only [h.render, mapError_id]

section

variable {registry : Registry} {language : Language} {parent code : String} {chain : List Language}

theorem fresh_iff :
    registry.Fresh code ↔ (registry.language? code).isNone = true ∧
      ∀ entry ∈ registry.languages.toList, entry.2.fallback ≠ some code := by
  rw [Option.isNone_iff_eq_none]
  constructor
  · intro hfresh
    refine ⟨hfresh.unknown, fun entry hentry => hfresh.unnamed entry.1 entry.2 ?_⟩
    exact Std.ExtTreeMap.mem_toList_iff_getElem?_eq_some.1 hentry
  · rintro ⟨hunknown, hunnamed⟩
    refine ⟨hunknown, fun other language hlanguage => hunnamed (other, language) ?_⟩
    exact Std.ExtTreeMap.mem_toList_iff_getElem?_eq_some.2 hlanguage

instance : Decidable (registry.Fresh code) :=
  decidable_of_iff' _ fresh_iff

theorem Fresh.ne_of_language? (hfresh : registry.Fresh code) {other : String}
    (h : registry.language? other = some language) : other ≠ code := by
  rintro rfl
  exact Option.some_ne_none language (h.symm.trans hfresh.unknown)

theorem Fresh.unnamed_of_knows (hfresh : registry.Fresh code) {other : Language}
    (hknown : registry.languages.Knows other) : other.fallback ≠ some code := by
  obtain ⟨known, hother⟩ := hknown
  exact hfresh.unnamed known other hother

theorem chain_extend_of_ne (hfresh : registry.Fresh code) (language : Language) {other : String}
    (hne : other ≠ code) :
    (registry.register (language.extend code)).languages.chain other =
      registry.languages.chain other :=
  Languages.chain_add_of_ne (fun _ => hfresh.unnamed_of_knows) hne

theorem chain_extend_self (hfresh : registry.Fresh code)
    (hchain : registry.languages.chain language.code = .ok chain) :
    (registry.register (language.extend code)).languages.chain code =
      if chain.length < chainLimit then .ok (language.extend code :: chain)
      else .error (.chainTooLong code chainLimit) := by
  obtain ⟨known, hknown⟩ := Languages.exists_of_chain hchain
  exact Languages.chain_add_self (fun _ => hfresh.unnamed_of_knows) rfl
    (hfresh.ne_of_language? hknown) hchain

theorem catalog?_of_fresh (hwell : registry.WellFormed) (hfresh : registry.Fresh code) :
    registry.catalog? code = none := by
  have hsome := hwell.catalog_iff code
  rw [hfresh.unknown] at hsome
  simpa using hsome

theorem localText?_extend (hwell : registry.WellFormed) (hfresh : registry.Fresh code)
    (language : Language) (other key : String) :
    (registry.register (language.extend code)).localText? other key =
      registry.localText? other key := by
  unfold localText?
  rw [catalog?_register]
  split
  · next hcode =>
    obtain rfl : code = other := hcode
    simp [catalog?_of_fresh hwell hfresh]
  · rfl

theorem nearest?_extend (hwell : registry.WellFormed) (hfresh : registry.Fresh code)
    (language : Language) (key : String) (chain : List Language) :
    (registry.register (language.extend code)).nearest? key chain = registry.nearest? key chain := by
  simp only [nearest?, localText?_extend hwell hfresh]

theorem sameResults_extend (hwell : registry.WellFormed) (hfresh : registry.Fresh code)
    (language : Language) {other : String} (hother : other ∈ registry.languages) :
    SameResults registry (registry.register (language.extend code)) other := by
  obtain ⟨known, hknown⟩ := exists_language_of_mem hother
  have hne := hfresh.ne_of_language? hknown
  have hchain := chain_extend_of_ne hfresh language hne
  have hlanguage : (registry.register (language.extend code)).language? other =
      registry.language? other := by
    rw [language?_register]
    exact if_neg hne.symm
  have hcatalog : (registry.register (language.extend code)).catalog? other =
      registry.catalog? other := by
    rw [catalog?_register]
    exact if_neg hne.symm
  have hmirrors : Mirrors id registry other (registry.register (language.extend code)) other := by
    refine ⟨fun _ _ => rfl, ⟨known, hknown⟩, ⟨known, hlanguage.trans hknown⟩, rfl, ?_, ?_⟩
    · intro name
      unfold Languages.resolveDomain
      rw [hchain, mapError_id]
    · intro key
      exact translation?_congr hchain fun chain _ => nearest?_extend hwell hfresh language key chain
  exact .of_mirrors hmirrors hlanguage hcatalog hchain

theorem mirrors_extend (hwell : registry.WellFormed) (hfresh : registry.Fresh code)
    (hchain : registry.languages.chain language.code = .ok chain)
    (hlength : chain.length < chainLimit) :
    Mirrors (.unsupportedIn code) registry language.code
      (registry.register (language.extend code)) code := by
  have hchain' := chain_extend_self hfresh hchain
  rw [if_pos hlength] at hchain'
  have hlanguage : (registry.register (language.extend code)).language? code =
      some (language.extend code) := by
    rw [language?_register]
    exact if_pos rfl
  refine ⟨?_, Languages.exists_of_chain hchain, ⟨_, hlanguage⟩, rfl, ?_, ?_⟩
  · intro error hother
    cases error with
    | unsupportedDomain domain language => exact absurd rfl (hother domain language)
    | _ => rfl
  · intro name
    rw [Languages.resolveDomain_of_chain hchain, Languages.resolveDomain_of_chain hchain',
      List.findSome?_cons, Language.localDomain?_extend]
    cases chain.findSome? (·.localDomain? name) <;> rfl
  · intro key
    have hnone : registry.localText? (language.extend code).code key = none := by
      change registry.localText? code key = none
      rw [localText?, catalog?_of_fresh hwell hfresh]
      rfl
    rw [translation?_of_chain hchain, translation?_of_chain hchain',
      nearest?_extend hwell hfresh, nearest?, List.findSome?_cons, hnone]
    rfl

theorem fallbackChain_extend (hfresh : registry.Fresh code)
    (hchain : registry.languages.chain language.code = .ok chain) :
    (registry.register (language.extend code)).fallbackChain code =
      if chain.length < chainLimit then .ok (code :: chain.map (·.code))
      else .error (.chainTooLong code chainLimit) := by
  unfold fallbackChain
  rw [chain_extend_self hfresh hchain]
  split <;> rfl

/-- A new language shows what its parent shows, as long as its chain is not too long. -/
theorem extendLanguage_transparent (h : Reachable registry) (hfresh : registry.Fresh code)
    (hchain : registry.languages.chain parent = .ok chain) :
    ∃ registry', registry.extendLanguage parent code = .ok registry' ∧
      (∀ other ∈ registry.languages, SameResults registry registry' other) ∧
      (chain.length ≤ 31 →
        registry'.fallbackChain code = .ok (code :: chain.map (·.code)) ∧
        (∀ source, registry'.translationKeys code source =
          (registry.translationKeys parent source).mapError (.unsupportedIn code)) ∧
        (∀ key, registry'.translation? code key = registry.translation? parent key) ∧
        ∀ source values, (registry'.render code source values).1 =
          (registry.render parent source values).1.mapError (.unsupportedIn code)) ∧
      (chain.length = 32 →
        registry'.fallbackChain code = .error (.chainTooLong code 32) ∧
        ∀ name, registry'.languages.resolveDomain code name = .error (.chainTooLong code 32)) := by
  have hwell := wellFormed_of_reachable h
  obtain ⟨language, hlanguage⟩ := Languages.exists_of_chain hchain
  obtain rfl : language.code = parent := hwell.code_eq parent language hlanguage
  refine ⟨_, extendLanguage_of_language? hlanguage code, ?_, ?_, ?_⟩
  · intro other hother
    exact sameResults_extend hwell hfresh language hother
  · intro hlength
    have hshort : chain.length < chainLimit := Nat.lt_succ_of_le hlength
    have hmirrors := mirrors_extend hwell hfresh hchain hshort
    refine ⟨?_, hmirrors.translationKeys, hmirrors.translation, hmirrors.render⟩
    rw [fallbackChain_extend hfresh hchain, if_pos hshort]
  · intro hlength
    have hlong : ¬ chain.length < chainLimit := by
      rw [hlength]
      exact Nat.lt_irrefl 32
    have hchain' := chain_extend_self hfresh hchain
    rw [if_neg hlong] at hchain'
    refine ⟨?_, Languages.resolveDomain_of_chain_eq_error hchain'⟩
    rw [fallbackChain_extend hfresh hchain, if_neg hlong]
    rfl

/-- The codes of languages that extend one another, of one letter each below the root. -/
def rung : Nat → String
  | 0 => "root"
  | n + 1 => String.ofList [Char.ofNat (n + 97)]

def ladder (mode : RenderMode) : Nat → Registry
  | 0 => standard mode
  | n + 1 => (ladder mode n).apply (.extendLanguage (rung n) (rung (n + 1)))

theorem reachable_ladder (mode : RenderMode) (n : Nat) : Reachable (ladder mode n) := by
  induction n with
  | zero => exact .standard mode
  | succ n ih => exact ih.apply _

/-- Viennese shows what Austrian German shows, errors included; but nothing can be resolved one
language beyond the longest chain. -/
theorem extendLanguage_transparent_vienna :
    (Reachable (standard .strict) ∧ (standard .strict).Fresh "de_AT_vienna" ∧
      ∃ registry', (standard .strict).extendLanguage "de_AT" "de_AT_vienna" = .ok registry' ∧
        registry'.translationKeys "de_AT_vienna" (braced "number(n)") =
          .ok [braced "one(number(n))", braced "zero(number(n))"] ∧
        (registry'.render "de_AT_vienna" (braced "color(c)") ∅).1 =
          .error (.unsupportedDomain "color" "de_AT_vienna")) ∧
      Reachable (ladder .strict 31) ∧ (ladder .strict 31).Fresh "far" ∧
      ∃ registry', (ladder .strict 31).extendLanguage (rung 31) "far" = .ok registry' ∧
        registry'.languages.resolveDomain "far" "number" = .error (.chainTooLong "far" 32) := by
  have hvienna : (standard .strict).Fresh "de_AT_vienna" := by decide +kernel
  have hfar : (ladder .strict 31).Fresh "far" := by decide +kernel
  refine ⟨⟨.standard .strict, hvienna, ?_⟩, reachable_ladder .strict 31, hfar, ?_⟩
  · have hchain : ∃ chain, (standard .strict).languages.chain "de_AT" = .ok chain ∧
        chain.length ≤ 31 :=
      ⟨_, rfl, by decide⟩
    obtain ⟨chain, hchain, hlength⟩ := hchain
    obtain ⟨registry', hextend, -, hmirrors, -⟩ :=
      extendLanguage_transparent (.standard .strict) hvienna hchain
    obtain ⟨-, hkeys, -, hrender⟩ := hmirrors hlength
    refine ⟨registry', hextend, ?_, ?_⟩
    · rw [hkeys]
      rfl
    · rw [hrender]
      rfl
  · have hlength : ((ladder .strict 31).languages.chain (rung 31)).toOption.map List.length =
        some 32 := by
      decide +kernel
    cases hchain : (ladder .strict 31).languages.chain (rung 31) with
    | error error => simp [hchain, Except.toOption] at hlength
    | ok chain =>
      rw [hchain] at hlength
      obtain ⟨registry', hextend, -, -, hlong⟩ :=
        extendLanguage_transparent (reachable_ladder .strict 31) hfar hchain
      exact ⟨registry', hextend, (hlong (Option.some.inj hlength)).2 "number"⟩

end

end Registry

end Phrasebook
