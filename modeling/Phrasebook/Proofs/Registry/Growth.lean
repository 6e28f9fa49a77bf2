import Phrasebook.Proofs.Language.Walk
import Phrasebook.Proofs.Registry.DomainReach
import Phrasebook.Proofs.Registry.Extending
import Phrasebook.Proofs.Registry.Loading

/-!
Registries that grow. As long as languages are only made by extending known ones, under codes that
nothing stands for yet, every walk along fallbacks leads to the root (`rooted_of_grown`). The
standard languages may be registered again at any time, because this does not move them.
-/
namespace Phrasebook

namespace Registry

/-- The operation makes no language, or the standard ones, or one that extends another one under a
new code. -/
def Grows (registry : Registry) : Operation → Prop
  | .register _ _ => False
  | .extendLanguage _ code => code ∉ registry.languages
  | _ => True

inductive Grown : Registry → Prop
  | standard (mode : RenderMode) : Grown (standard mode)
  | apply {registry : Registry} (grown : Grown registry) (operation : Operation)
      (grows : registry.Grows operation) : Grown (registry.apply operation)

theorem Grown.reachable {registry : Registry} (h : Grown registry) : Reachable registry := by
  induction h with
  | standard mode => exact .standard mode
  | apply _ operation _ ih => exact ih.apply operation

end Registry

namespace Languages

def KeepsFallbacks (languages languages' : Languages) : Prop :=
  ∀ (code : String) (language : Language), languages[code]? = some language →
    ∃ language', languages'[code]? = some language' ∧ language'.fallback = language.fallback

/-- The standard languages are where they belong, and every walk leads over known languages to the
root. -/
structure Rooted (languages : Languages) : Prop where
  standard : ∀ language ∈ Standard.languages,
    languages[language.code]?.map (·.fallback) = some language.fallback
  known : ∀ code parent, languages.FallsBack code parent → parent ∈ languages
  walk : ∀ code ∈ languages, ∃ codes, languages.Walk code codes ∧ codes.getLast? = some "root"

variable {languages languages' : Languages} {code parent : String} {codes : List String}

namespace KeepsFallbacks

theorem mem (h : KeepsFallbacks languages languages') (hcode : code ∈ languages) :
    code ∈ languages' := by
  obtain ⟨language', hlanguage', -⟩ := h code _ (Std.ExtTreeMap.getElem?_eq_some_getElem hcode)
  exact mem_of_getElem? hlanguage'

theorem fallsBack (h : KeepsFallbacks languages languages')
    (falls : languages.FallsBack code parent) : languages'.FallsBack code parent := by
  obtain ⟨language, hlanguage, hfallback⟩ := falls
  obtain ⟨language', hlanguage', heq⟩ := h code language hlanguage
  exact ⟨language', hlanguage', heq.trans hfallback⟩

theorem fallsBack_iff (h : KeepsFallbacks languages languages') (hcode : code ∈ languages) :
    languages'.FallsBack code parent ↔ languages.FallsBack code parent := by
  refine ⟨?_, h.fallsBack⟩
  obtain ⟨language', hlanguage', heq⟩ := h code _ (Std.ExtTreeMap.getElem?_eq_some_getElem hcode)
  rintro ⟨other, hother, hfallback⟩
  obtain rfl := Option.some.inj (hlanguage'.symm.trans hother)
  exact ⟨_, Std.ExtTreeMap.getElem?_eq_some_getElem hcode, heq.symm.trans hfallback⟩

theorem walk (h : KeepsFallbacks languages languages')
    (hknown : ∀ code parent, languages.FallsBack code parent → parent ∈ languages)
    (walk : languages.Walk code codes) : languages'.Walk code codes := by
  induction walk with
  | @last code language known ends =>
    obtain ⟨language', hlanguage', heq⟩ := h code language known
    refine .last hlanguage' ?_
    cases hfallback : language.fallback with
    | none => rw [parent?, heq, hfallback, Option.bind_none]
    | some parent =>
      have hparent := hknown code parent ⟨language, known, hfallback⟩
      rw [parent?, hfallback, Option.bind_some] at ends
      exact absurd hparent ((getElem?_eq_none_iff languages parent).1 ends)
  | next falls rest ih => exact .next (h.fallsBack falls) ih

end KeepsFallbacks

theorem Rooted.grow (hrooted : languages.Rooted) (hkeeps : KeepsFallbacks languages languages')
    (hnew : ∀ code ∈ languages', code ∉ languages →
      ∃ parent ∈ languages, languages'.FallsBack code parent) : languages'.Rooted where
  standard language hlanguage := by
    obtain ⟨known, hknown, hfallback⟩ :=
      Option.map_eq_some_iff.1 (hrooted.standard language hlanguage)
    obtain ⟨language', hlanguage', heq⟩ := hkeeps language.code known hknown
    rw [hlanguage', Option.map_some, heq, hfallback]
  known code parent hfalls := by
    by_cases hcode : code ∈ languages
    · exact hkeeps.mem (hrooted.known code parent ((hkeeps.fallsBack_iff hcode).1 hfalls))
    · obtain ⟨known, hknown, hfalls'⟩ := hnew code hfalls.mem hcode
      obtain rfl := hfalls.unique hfalls'
      exact hkeeps.mem hknown
  walk code hmem := by
    by_cases hcode : code ∈ languages
    · obtain ⟨codes, walk, hroot⟩ := hrooted.walk code hcode
      exact ⟨codes, hkeeps.walk hrooted.known walk, hroot⟩
    · obtain ⟨parent, hparent, hfalls⟩ := hnew code hmem hcode
      obtain ⟨codes, walk, hroot⟩ := hrooted.walk parent hparent
      refine ⟨code :: codes, .next hfalls (hkeeps.walk hrooted.known walk), ?_⟩
      rw [List.getLast?_cons, hroot]
      rfl

theorem mem_add {added : Language} :
    code ∈ languages.add added ↔ code = added.code ∨ code ∈ languages := by
  simp only [Std.ExtTreeMap.mem_iff_isSome_getElem?, getElem?_add]
  split
  · next hcode => simp [hcode]
  · next hcode => simp [Ne.symm hcode]

theorem Rooted.add_below (hrooted : languages.Rooted) {added : Language}
    (hfresh : added.code ∉ languages) (hfallback : added.fallback = some parent)
    (hparent : parent ∈ languages) : (languages.add added).Rooted := by
  refine hrooted.grow (fun code language hlanguage => ?_) fun code hcode hnew => ?_
  · have hne : added.code ≠ code := fun heq => hfresh (heq ▸ mem_of_getElem? hlanguage)
    refine ⟨language, ?_, rfl⟩
    rw [getElem?_add, if_neg hne, hlanguage]
  · obtain rfl := (mem_add.1 hcode).resolve_right hnew
    exact ⟨parent, hparent, added, by rw [getElem?_add, if_pos rfl], hfallback⟩

theorem Rooted.add_standard (hrooted : languages.Rooted) {added : Language}
    (hadded : added ∈ Standard.languages) : (languages.add added).Rooted := by
  obtain ⟨known, hknown, hfallback⟩ := Option.map_eq_some_iff.1 (hrooted.standard added hadded)
  refine hrooted.grow (fun code language hlanguage => ?_) fun code hcode hnew => ?_
  · rw [getElem?_add]
    split
    · next heq =>
      subst heq
      obtain rfl := Option.some.inj (hknown.symm.trans hlanguage)
      exact ⟨added, rfl, hfallback.symm⟩
    · exact ⟨language, hlanguage, rfl⟩
  · obtain rfl := (mem_add.1 hcode).resolve_right hnew
    exact absurd (mem_of_getElem? hknown) hnew

theorem coded_standard : (ofLanguages Standard.languages).Coded :=
  (Registry.wellFormed_standard .passthrough).code_eq

theorem rooted_standard : (ofLanguages Standard.languages).Rooted where
  standard := by decide +kernel
  known code parent hfalls := by
    have hparents : ∀ language ∈ Standard.languages, ∀ parent ∈ language.fallback,
        parent ∈ ofLanguages Standard.languages := by
      decide +kernel
    obtain ⟨language, hlanguage, hfallback⟩ := hfalls
    rcases getElem?_foldl_add hlanguage with hmem | hempty
    · exact hparents language hmem parent hfallback
    · simp at hempty
  walk code hcode := by
    have hchains : ∀ language ∈ Standard.languages,
        (((ofLanguages Standard.languages).chain language.code).toOption.bind
          (·.getLast?)).map (·.code) = some "root" := by
      decide +kernel
    have hlanguage := Std.ExtTreeMap.getElem?_eq_some_getElem hcode
    rcases getElem?_foldl_add hlanguage with hmem | hempty
    · have hroot := hchains _ hmem
      rw [coded_standard code _ hlanguage] at hroot
      cases hchain : (ofLanguages Standard.languages).chain code with
      | error error => simp [hchain, Except.toOption] at hroot
      | ok chain =>
        refine ⟨_, walk_of_chain coded_standard hchain, ?_⟩
        rw [hchain] at hroot
        rw [List.getLast?_map]
        exact hroot
    · simp at hempty

end Languages

namespace Registry

variable {registry registry' : Registry}

theorem rooted_foldl_register {added : List Language}
    (hadded : ∀ language ∈ added, language ∈ Standard.languages) (h : registry.languages.Rooted) :
    (added.foldl register registry).languages.Rooted := by
  induction added generalizing registry with
  | nil => exact h
  | cons language added ih =>
    have hfirst : (registry.register language).languages.Rooted :=
      h.add_standard (hadded language List.mem_cons_self)
    exact ih (fun other hother => hadded other (List.mem_cons_of_mem _ hother)) hfirst

theorem rooted_extendLanguage (hwell : registry.WellFormed) (h : registry.languages.Rooted)
    {parent code : String} (hnew : code ∉ registry.languages)
    (hextend : registry.extendLanguage parent code = .ok registry') :
    registry'.languages.Rooted := by
  obtain ⟨language, hlanguage, rfl⟩ := eq_of_extendLanguage hextend
  have hparent : parent ∈ registry.languages := Languages.mem_of_getElem? hlanguage
  have hcode := hwell.code_eq parent language hlanguage
  exact h.add_below hnew rfl (hcode ▸ hparent)

theorem rooted_updateDomain (hwell : registry.WellFormed) (h : registry.languages.Rooted)
    {target : String} {domain : Domain}
    (hupdate : registry.updateDomain target domain = .ok registry') :
    registry'.languages.Rooted := by
  have hlanguage (code : String) : registry'.languages[code]? =
      registry.languages[code]?.map (·.redefine target domain) :=
    language?_of_updateDomain hwell hupdate code
  refine h.grow (fun code language hknown => ?_) fun code hcode hnew => ?_
  · refine ⟨language.redefine target domain, ?_, language.fallback_redefine⟩
    rw [hlanguage, hknown, Option.map_some]
  · rw [Std.ExtTreeMap.mem_iff_isSome_getElem?] at hcode hnew
    rw [hlanguage, Option.isSome_map] at hcode
    exact absurd hcode hnew

theorem rooted_updated (h : registry.languages.Rooted) {update : Except Error Registry}
    (hupdate : ∀ registry', update = .ok registry' → registry'.languages.Rooted) :
    (registry.updated update).languages.Rooted := by
  cases update with
  | error => exact h
  | ok registry' => exact hupdate registry' rfl

theorem rooted_apply (hwell : registry.WellFormed) (h : registry.languages.Rooted)
    {operation : Operation} (grows : registry.Grows operation) :
    (registry.apply operation).languages.Rooted := by
  cases operation with
  | registerStandard => exact rooted_foldl_register (fun _ => id) h
  | register language built => exact grows.elim
  | extendLanguage parent code =>
    exact rooted_updated h fun registry' => rooted_extendLanguage hwell h grows
  | updateDomain code name categories format =>
    refine rooted_updated h fun registry' hupdate => ?_
    obtain ⟨domain, -, hupdate⟩ := exists_of_bind_eq_ok hupdate
    exact rooted_updateDomain hwell h hupdate
  | updateTranslations code pairs =>
    refine rooted_updated h fun registry' hupdate => ?_
    rw [languages_of_updateTranslations hupdate]
    exact h
  | loadChain tree folder code =>
    obtain ⟨catalogs, heq⟩ := exists_catalogs_loadChain registry tree folder code
    rw [apply, heq]
    exact h
  | render code source values => exact h
  | renderJson code source values =>
    rw [apply, renderJson]
    split <;> exact h
  | reset => exact Languages.rooted_standard

theorem rooted_languages_of_grown (h : Grown registry) : registry.languages.Rooted := by
  induction h with
  | standard mode => exact Languages.rooted_standard
  | apply grown operation grows ih =>
    exact rooted_apply (wellFormed_of_reachable grown.reachable) ih grows

theorem fallbackChain_of_walk (hwell : registry.WellFormed) {code : String} {codes : List String}
    (walk : registry.languages.Walk code codes) :
    registry.fallbackChain code =
      if codes.length ≤ chainLimit then .ok codes else .error (.chainTooLong code chainLimit) := by
  rw [← walk.chain_eq hwell.code_eq]
  unfold fallbackChain
  cases registry.languages.chain code <;> rfl

theorem fresh_of_rooted (h : registry.languages.Rooted) {code : String}
    (hnew : code ∉ registry.languages) : registry.Fresh code where
  unknown := Std.ExtTreeMap.getElem?_eq_none hnew
  unnamed other language hlanguage hfallback :=
    hnew (h.known other code ⟨language, hlanguage, hfallback⟩)

theorem chain_apply_extendLanguage (h : registry.languages.Rooted) {parent code : String}
    (hnew : code ∉ registry.languages) {other : String} (hother : other ∈ registry.languages) :
    (registry.apply (.extendLanguage parent code)).languages.chain other =
      registry.languages.chain other := by
  rw [apply]
  cases hextend : registry.extendLanguage parent code with
  | error error => rfl
  | ok registry' =>
    obtain ⟨language, -, rfl⟩ := eq_of_extendLanguage hextend
    have hne : other ≠ code := fun heq => hnew (heq ▸ hother)
    exact chain_extend_of_ne (fresh_of_rooted h hnew) language hne

/-- A registry that grows never has a cycle: all walks lead to the root, and a chain is such a walk
as long as it keeps to the limit. -/
theorem rooted_of_grown (h : Grown registry) :
    (∀ code parent, registry.languages.FallsBack code parent → parent ∈ registry.languages) ∧
      (∀ code, ¬ Relation.TransGen registry.languages.FallsBack code code) ∧
      (∀ code ∈ registry.languages, ∃ codes, registry.languages.Walk code codes ∧
        (∀ codes', registry.languages.Walk code codes' → codes' = codes) ∧
        codes.getLast? = some "root" ∧
        (codes.length ≤ 32 → registry.fallbackChain code = .ok codes) ∧
        (32 < codes.length → registry.fallbackChain code = .error (.chainTooLong code 32))) ∧
      ∀ parent code, code ∉ registry.languages → ∀ other ∈ registry.languages,
        (registry.apply (.extendLanguage parent code)).languages.chain other =
          registry.languages.chain other := by
  have hrooted := rooted_languages_of_grown h
  have hwell := wellFormed_of_reachable h.reachable
  refine ⟨hrooted.known, ?_, ?_, ?_⟩
  · refine Languages.not_transGen_of_walk fun code hcode => ?_
    obtain ⟨codes, walk, -⟩ := hrooted.walk code hcode
    exact ⟨codes, walk⟩
  · intro code hcode
    obtain ⟨codes, walk, hroot⟩ := hrooted.walk code hcode
    have hchain := fallbackChain_of_walk hwell walk
    refine ⟨codes, walk, fun codes' => walk.unique, hroot, fun hlength => ?_, fun hlength => ?_⟩
    · exact hchain.trans (if_pos hlength)
    · exact hchain.trans (if_neg (Nat.not_le_of_lt hlength))
  · intro parent code hnew other hother
    exact chain_apply_extendLanguage hrooted hnew hother

theorem grown_ladder {n : Nat} (hn : n ≤ 32) : Grown (ladder .passthrough n) := by
  induction n with
  | zero => exact .standard .passthrough
  | succ n ih =>
    have hnew : ∀ n < 32, rung (n + 1) ∉ (ladder .passthrough n).languages := by
      decide +kernel
    exact (ih (Nat.le_of_succ_le hn)).apply (.extendLanguage (rung n) (rung (n + 1))) (hnew n hn)

/-- The standard languages are registered again over an extended one, and a ladder is made that is
too long for a chain; both lead to the root. -/
theorem rooted_of_grown_ladder :
    (∃ registry, Grown registry ∧ "de_AT_vienna" ∈ registry.languages ∧
      ¬ Relation.TransGen registry.languages.FallsBack "de_AT_vienna" "de_AT_vienna") ∧
    Grown (ladder .passthrough 32) ∧ rung 32 ∈ (ladder .passthrough 32).languages ∧
      ∃ codes, (ladder .passthrough 32).languages.Walk (rung 32) codes ∧ 32 < codes.length ∧
        codes.getLast? = some "root" := by
  have hladder := grown_ladder (Nat.le_refl 32)
  have hmem : rung 32 ∈ (ladder .passthrough 32).languages := by decide +kernel
  refine ⟨?_, hladder, hmem, ?_⟩
  · have hnew : "de_AT_vienna" ∉ (standard .passthrough).languages := by decide +kernel
    have hvienna : ∃ registry, Grown registry ∧ "de_AT_vienna" ∈ registry.languages :=
      ⟨_, (((Grown.standard .passthrough).apply (.extendLanguage "de_AT" "de_AT_vienna") hnew).apply
        (.updateDomain "de_AT" "mood" [.catchAll "any"] Value.shown) trivial).apply
        .registerStandard trivial, by decide +kernel⟩
    obtain ⟨registry, hgrown, hmem⟩ := hvienna
    exact ⟨registry, hgrown, hmem, (rooted_of_grown hgrown).2.1 _⟩
  · obtain ⟨codes, walk, -, hroot, hshort, -⟩ := (rooted_of_grown hladder).2.2.1 _ hmem
    refine ⟨codes, walk, Nat.lt_of_not_le fun hlength => ?_, hroot⟩
    have hlong : ((ladder .passthrough 32).fallbackChain (rung 32)).toOption = none := by
      decide +kernel
    rw [hshort hlength] at hlong
    exact Option.some_ne_none codes hlong

end Registry

end Phrasebook
