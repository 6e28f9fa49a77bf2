import Phrasebook.Proofs.Registry.Operation
import Phrasebook.Proofs.Registry.Update

/-!
What holds of every registry that an application can come to: there is a catalog for exactly the
known languages, each language stands under its own code, and its local domains can be told apart
by name (`representation_of_reachable`). Each operation but `reset` also keeps every language and
every key (`preserves_apply`).
-/
namespace Phrasebook.Registry

structure WellFormed (registry : Registry) : Prop where
  catalog_iff : ∀ code,
    (registry.catalog? code).isSome = true ↔ (registry.language? code).isSome = true
  code_eq : ∀ code language, registry.language? code = some language → language.code = code
  built : ∀ code language, registry.language? code = some language → language.Built

structure Keeps (registry registry' : Registry) : Prop where
  language : ∀ code, (registry.language? code).isSome = true →
    (registry'.language? code).isSome = true
  key : ∀ code catalog, registry.catalog? code = some catalog →
    ∃ catalog', registry'.catalog? code = some catalog' ∧ ∀ key, key ∈ catalog → key ∈ catalog'

structure Preserves (registry registry' : Registry) : Prop where
  wellFormed : registry.WellFormed → registry'.WellFormed
  keeps : Keeps registry registry'

variable {registry registry' registry'' : Registry}

theorem keeps_of_eq (hlanguages : registry'.languages = registry.languages)
    (hcatalogs : registry'.catalogs = registry.catalogs) : Keeps registry registry' where
  language code h := by
    unfold language? at h ⊢
    rwa [hlanguages]
  key code catalog h := by
    refine ⟨catalog, ?_, fun _ => id⟩
    unfold catalog? at h ⊢
    rwa [hcatalogs]

theorem preserves_of_eq (hlanguages : registry'.languages = registry.languages)
    (hcatalogs : registry'.catalogs = registry.catalogs) : Preserves registry registry' where
  wellFormed h := by
    have hlanguage : registry'.language? = registry.language? := by
      unfold language?
      rw [hlanguages]
    have hcatalog : registry'.catalog? = registry.catalog? := by
      unfold catalog?
      rw [hcatalogs]
    constructor
    · rw [hcatalog, hlanguage]
      exact h.catalog_iff
    · rw [hlanguage]
      exact h.code_eq
    · rw [hlanguage]
      exact h.built
  keeps := keeps_of_eq hlanguages hcatalogs

theorem Preserves.refl (registry : Registry) : Preserves registry registry :=
  preserves_of_eq rfl rfl

theorem Preserves.trans (h : Preserves registry registry') (h' : Preserves registry' registry'') :
    Preserves registry registry'' where
  wellFormed := h'.wellFormed ∘ h.wellFormed
  keeps := {
    language := fun code hcode => h'.keeps.language code (h.keeps.language code hcode)
    key := by
      intro code catalog hcatalog
      obtain ⟨catalog', hcatalog', hkeys⟩ := h.keeps.key code catalog hcatalog
      obtain ⟨catalog'', hcatalog'', hkeys'⟩ := h'.keeps.key code catalog' hcatalog'
      exact ⟨catalog'', hcatalog'', fun key hkey => hkeys' key (hkeys key hkey)⟩ }

theorem Preserves.foldl {α : Type} {update : Registry → α → Registry} {items : List α}
    (h : ∀ registry, ∀ item ∈ items, Preserves registry (update registry item))
    (registry : Registry) : Preserves registry (items.foldl update registry) := by
  induction items generalizing registry with
  | nil => exact .refl registry
  | cons item items ih =>
    exact (h registry item (by simp)).trans
      (ih (fun registry other hother => h registry other (List.mem_cons_of_mem _ hother)) _)

theorem WellFormed.put (h : registry.WellFormed) {language : Language} (built : language.Built)
    (hlanguage : ∀ code, registry'.language? code =
      if language.code = code then some language else registry.language? code)
    (hcatalog : ∀ code, (registry'.catalog? code).isSome = true ↔
      language.code = code ∨ (registry.catalog? code).isSome = true) : registry'.WellFormed where
  catalog_iff code := by
    rw [hcatalog, hlanguage]
    split
    · next hcode => simp [hcode]
    · next hcode => simp [hcode, h.catalog_iff]
  code_eq code other hother := by
    rw [hlanguage] at hother
    split at hother
    · next hcode =>
      cases hother
      exact hcode
    · exact h.code_eq code other hother
  built code other hother := by
    rw [hlanguage] at hother
    split at hother
    · cases hother
      exact built
    · exact h.built code other hother

theorem preserves_register (registry : Registry) {language : Language} (built : language.Built) :
    Preserves registry (registry.register language) where
  wellFormed h := by
    apply h.put built (language?_register registry language)
    intro code
    rw [catalog?_register]
    split
    · next hcode => simp [hcode]
    · next hcode => simp [hcode]
  keeps := {
    language := by
      intro code hcode
      rw [language?_register]
      split
      · rfl
      · exact hcode
    key := by
      intro code catalog hcatalog
      refine ⟨catalog, ?_, fun _ => id⟩
      rw [catalog?_register, hcatalog]
      split <;> rfl }

theorem preserves_updateDomain {target : String} {domain : Domain}
    (h : registry.updateDomain target domain = .ok registry') : Preserves registry registry' := by
  obtain ⟨language, hlanguage, rfl⟩ := eq_of_updateDomain h
  have hlanguage' (code : String) :
      language? { registry with
        languages := registry.languages.insert target (language.updateDomain domain) } code =
      if target = code then some (language.updateDomain domain) else registry.language? code := by
    simp [language?, Std.ExtTreeMap.getElem?_insert]
  refine ⟨fun hwell => ?_, fun code hcode => ?_, fun code catalog hcatalog => ?_⟩
  · have hcode : (language.updateDomain domain).code = target :=
      hwell.code_eq target language hlanguage
    apply hwell.put ((hwell.built target language hlanguage).updateDomain domain)
    · rw [hcode]
      exact hlanguage'
    · intro code
      -- The catalog of the language is there already.
      have hcatalog : target = code → (registry.catalog? code).isSome = true := by
        rintro rfl
        rw [hwell.catalog_iff, hlanguage]
        rfl
      rw [hcode]
      exact ⟨Or.inr, fun hor => hor.elim hcatalog id⟩
  · rw [hlanguage']
    split
    · rfl
    · exact hcode
  · exact ⟨catalog, hcatalog, fun _ => id⟩

theorem preserves_updateTranslations {target : String} {pairs : List (String × String)}
    (h : registry.updateTranslations target pairs = .ok registry') :
    Preserves registry registry' := by
  obtain ⟨language, hlanguage⟩ := exists_of_updateTranslations h
  have hlanguages : registry'.language? = registry.language? := by
    unfold language?
    rw [languages_of_updateTranslations h]
  have hcatalog := catalog?_of_updateTranslations h
  refine ⟨fun hwell => ⟨?_, ?_, ?_⟩, ?_, fun code catalog hold => ?_⟩
  · intro code
    rw [hcatalog, hlanguages]
    split
    · next hcode => simp [← hcode, hlanguage]
    · exact hwell.catalog_iff code
  · rw [hlanguages]
    exact hwell.code_eq
  · rw [hlanguages]
    exact hwell.built
  · rw [hlanguages]
    exact fun _ => id
  · rw [hcatalog]
    split
    · next hcode =>
      refine ⟨_, rfl, fun key hkey => ?_⟩
      rw [hold]
      exact Catalog.mem_merge.2 (Or.inl hkey)
    · exact ⟨catalog, hold, fun _ => id⟩

theorem preserves_loadEach (tree : FileTree) (folder : String) (loaded : Nat)
    (registry : Registry) (codes : List String) :
    Preserves registry (loadEach tree folder loaded registry codes).2 := by
  induction codes generalizing loaded registry with
  | nil => exact .refl registry
  | cons code codes ih =>
    rw [loadEach]
    split
    · exact .refl registry
    · split
      · exact .refl registry
      · next updated hupdate => exact (preserves_updateTranslations hupdate).trans (ih _ updated)

theorem preserves_loadChain (registry : Registry) (tree : FileTree) (folder code : String) :
    Preserves registry (registry.loadChain tree folder code).2 := by
  unfold loadChain
  split
  · exact .refl registry
  · exact preserves_loadEach tree folder 0 registry _

theorem preserves_renderJson (registry : Registry) (code : String) (source values : Json) :
    Preserves registry (registry.renderJson code source values).2 := by
  unfold renderJson
  split
  · exact preserves_of_eq rfl rfl
  · exact preserves_of_eq rfl rfl

theorem preserves_registerStandard (registry : Registry) :
    Preserves registry registry.registerStandard :=
  .foldl (fun registry _ hlanguage =>
    preserves_register registry (Language.built_of_mem_standard hlanguage)) registry

theorem preserves_updated {update : Except Error Registry}
    (h : ∀ registry', update = .ok registry' → Preserves registry registry') :
    Preserves registry (registry.updated update) := by
  cases update with
  | error => exact .refl registry
  | ok registry' => exact h registry' rfl

theorem wellFormed_empty (mode : RenderMode) : WellFormed { mode } where
  catalog_iff := by simp [catalog?, language?]
  code_eq := by simp [language?]
  built := by simp [language?]

theorem wellFormed_standard (mode : RenderMode) : (standard mode).WellFormed :=
  (preserves_registerStandard { mode }).wellFormed (wellFormed_empty mode)

theorem WellFormed.foldl_install {languages : List Language}
    (built : ∀ language ∈ languages, language.Built) (h : registry.WellFormed) :
    (languages.foldl install registry).WellFormed := by
  induction languages generalizing registry with
  | nil => exact h
  | cons language languages ih =>
    apply ih (fun other hother => built other (List.mem_cons_of_mem _ hother))
    apply h.put (built language (by simp)) (language?_install registry language)
    intro code
    rw [catalog?_install]
    split
    · next hcode => simp [hcode]
    · next hcode => simp [hcode]

theorem wellFormed_reset (registry : Registry) : registry.reset.WellFormed :=
  (wellFormed_empty registry.mode).foldl_install fun _ => Language.built_of_mem_standard

theorem preserves_apply (registry : Registry) {operation : Operation}
    (h : operation ≠ .reset) : Preserves registry (registry.apply operation) := by
  cases operation with
  | registerStandard => exact preserves_registerStandard registry
  | register language built => exact preserves_register registry built
  | extendLanguage parent code =>
    apply preserves_updated
    intro registry' hupdate
    obtain ⟨language, -, rfl⟩ := eq_of_extendLanguage hupdate
    exact preserves_register registry (language.built_extend code)
  | updateDomain code name categories format =>
    apply preserves_updated
    intro registry' hupdate
    obtain ⟨domain, -, hupdate⟩ := exists_of_bind_eq_ok hupdate
    exact preserves_updateDomain hupdate
  | updateTranslations code pairs =>
    exact preserves_updated fun registry' hupdate => preserves_updateTranslations hupdate
  | loadChain tree folder code => exact preserves_loadChain registry tree folder code
  | render code source values => exact preserves_of_eq rfl rfl
  | renderJson code source values => exact preserves_renderJson registry code source values
  | reset => contradiction

theorem wellFormed_of_reachable (h : Reachable registry) : registry.WellFormed := by
  induction h with
  | empty mode => exact wellFormed_empty mode
  | standard mode => exact wellFormed_standard mode
  | @apply registry _ operation ih =>
    by_cases hreset : operation = .reset
    · rw [hreset]
      exact wellFormed_reset registry
    · exact (preserves_apply registry hreset).wellFormed ih

theorem representation_of_reachable (h : Reachable registry) :
    (∀ code, code ∈ registry.catalogs ↔ code ∈ registry.languages) ∧
      (∀ (code : String) (language : Language), registry.languages[code]? = some language →
        language.code = code ∧ (language.domains.map (·.name)).Nodup ∧
          ∀ domain ∈ language.domains,
            domain.name ≠ "" ∧ isPlain domain.name = true ∧ domain.categories ≠ []) ∧
      (∀ operation, operation ≠ .reset →
        (∀ code ∈ registry.languages, code ∈ (registry.apply operation).languages) ∧
          ∀ (code : String) (catalog : Catalog), registry.catalogs[code]? = some catalog →
            ∃ catalog' : Catalog, (registry.apply operation).catalogs[code]? = some catalog' ∧
              ∀ key ∈ catalog, key ∈ catalog') ∧
      ∀ (language : Language) (built : language.Built) (catalog : Catalog),
        registry.catalogs[language.code]? = some catalog →
        (registry.apply (.register language built)).catalogs[language.code]? = some catalog := by
  have hwell := wellFormed_of_reachable h
  refine ⟨fun code => ?_, fun code language hlanguage => ?_, fun operation hreset => ⟨?_, ?_⟩, ?_⟩
  · rw [Std.ExtTreeMap.mem_iff_isSome_getElem?, Std.ExtTreeMap.mem_iff_isSome_getElem?]
    exact hwell.catalog_iff code
  · refine ⟨hwell.code_eq code language hlanguage,
      (hwell.built code language hlanguage).nodup_names, fun domain _ => ?_⟩
    exact ⟨domain.name_ne_empty, domain.isPlain_name, domain.categories_ne_nil⟩
  · intro code hcode
    rw [Std.ExtTreeMap.mem_iff_isSome_getElem?] at hcode ⊢
    exact (preserves_apply registry hreset).keeps.language code hcode
  · exact (preserves_apply registry hreset).keeps.key
  · intro language built catalog hcatalog
    have hold : registry.catalog? language.code = some catalog := hcatalog
    have hregister := catalog?_register registry language language.code
    rw [if_pos rfl, hold] at hregister
    exact hregister

/-- A domain that is refused and an update of an unknown language are among the operations. -/
theorem representation_of_reachable_extended :
    ∃ registry, Reachable registry ∧ "de_AT_vienna" ∈ registry.languages ∧
      (registry.catalogs["de_AT_vienna"]?.bind (·["Servus"]?)) = some "Hawedere" ∧
      ∀ code, code ∈ registry.catalogs ↔ code ∈ registry.languages := by
  have hreachable : ∃ registry, Reachable registry ∧ "de_AT_vienna" ∈ registry.languages ∧
      (registry.catalogs["de_AT_vienna"]?.bind (·["Servus"]?)) = some "Hawedere" :=
    ⟨_, ((((Reachable.standard .strict).apply (.extendLanguage "de_AT" "de_AT_vienna")).apply
      (.updateDomain "de_AT_vienna" "" [] Value.shown)).apply
      (.updateTranslations "fr" [("Servus", "Salut")])).apply
      (.updateTranslations "de_AT_vienna" [("Servus", "Hawedere")]), by decide +kernel, rfl⟩
  obtain ⟨registry, hreachable, hmem, htext⟩ := hreachable
  exact ⟨registry, hreachable, hmem, htext, (representation_of_reachable hreachable).1⟩

end Phrasebook.Registry
