import Phrasebook.Catalog.Folder
import Phrasebook.Proofs.Registry.Outcome
import Phrasebook.Proofs.Registry.Representation

/-!
Loading the catalogs of a chain. If every file along it is absent or has a catalog in it, the
loading succeeds and merges each of them over what its language had (`exists_of_loadChain`);
otherwise it does so up to the first file that is of no use (`exists_of_loadChain_eq_error`). It
never changes anything but catalogs (`exists_catalogs_loadChain`).
-/
namespace Phrasebook.Registry

/-- The files of some languages have been merged over their catalogs; all else is as before. -/
structure Merged (files : String → Catalog) (codes : List String)
    (registry registry' : Registry) : Prop where
  mode : registry'.mode = registry.mode
  languages : registry'.languages = registry.languages
  metrics : registry'.metrics = registry.metrics
  catalog : ∀ code, registry'.catalog? code =
    if code ∈ codes then some (((registry.catalog? code).getD ∅).mergeCatalog (files code))
    else registry.catalog? code

variable {registry registry' registry'' : Registry} {files : String → Catalog} {tree : FileTree}
  {folder : String}

theorem merged_nil : Merged files [] registry registry where
  mode := rfl
  languages := rfl
  metrics := rfl
  catalog code := by simp

theorem merged_cons {code : String} {codes : List String}
    (hupdate : registry.updateTranslations code (files code).toList = .ok registry')
    (h : Merged files codes registry' registry'') :
    Merged files (code :: codes) registry registry'' where
  mode := h.mode.trans (mode_of_updateTranslations hupdate)
  languages := h.languages.trans (languages_of_updateTranslations hupdate)
  metrics := by
    rw [h.metrics, metrics_of_updateTranslations hupdate]
  catalog other := by
    have hother := catalog?_of_updateTranslations hupdate other
    rw [h.catalog, hother]
    by_cases hcode : code = other
    · subst hcode
      have hmem : code ∈ code :: codes := List.mem_cons_self
      rw [if_pos rfl, if_pos hmem, Option.getD_some]
      -- A language that stands in the list again gets the same file once more.
      split
      · exact congrArg some (Catalog.mergeCatalog_mergeCatalog _ (files code))
      · rfl
    · have hne : other ≠ code := fun heq => hcode heq.symm
      simp [hcode, hne]

theorem exists_updateTranslations {code : String} {language : Language}
    (h : registry.language? code = some language) (pairs : List (String × String)) :
    ∃ registry', registry.updateTranslations code pairs = .ok registry' := by
  unfold updateTranslations
  rw [language_eq_ok.2 h]
  exact ⟨_, rfl⟩

theorem exists_loadEach_append {nearer : List String}
    (hfiles : ∀ code ∈ nearer, Catalog.load tree folder code = .ok (files code))
    (hknown : ∀ code ∈ nearer, ∃ language, registry.language? code = some language)
    (loaded : Nat) (further : List String) :
    ∃ registry', loadEach tree folder loaded registry (nearer ++ further) =
        loadEach tree folder (nearer.foldl (fun total code => total + (files code).size) loaded)
          registry' further ∧
      Merged files nearer registry registry' := by
  induction nearer generalizing registry loaded with
  | nil => exact ⟨registry, rfl, merged_nil⟩
  | cons code nearer ih =>
    obtain ⟨language, hlanguage⟩ := hknown code List.mem_cons_self
    obtain ⟨registry₁, hupdate⟩ := exists_updateTranslations hlanguage (files code).toList
    have hknown₁ : ∀ other ∈ nearer, ∃ language, registry₁.language? other = some language := by
      intro other hother
      unfold language?
      rw [languages_of_updateTranslations hupdate]
      exact hknown other (List.mem_cons_of_mem _ hother)
    obtain ⟨registry', hload, hmerged⟩ :=
      ih (fun other hother => hfiles other (List.mem_cons_of_mem _ hother)) hknown₁
        (loaded + (files code).size)
    refine ⟨registry', ?_, merged_cons hupdate hmerged⟩
    rw [List.cons_append, loadEach, hfiles code List.mem_cons_self]
    dsimp only
    rw [hupdate]
    dsimp only
    rw [hload]
    rfl

theorem WellFormed.exists_of_mem_fallbackChain (h : registry.WellFormed) {code : String}
    {codes : List String} (hcodes : registry.fallbackChain code = .ok codes) {other : String}
    (hother : other ∈ codes) : ∃ language, registry.language? other = some language := by
  obtain ⟨chain, hchain, heq⟩ := exists_of_bind_eq_ok hcodes
  cases heq
  obtain ⟨language, hmem, rfl⟩ := List.mem_map.1 hother
  obtain ⟨name, hname⟩ := Languages.knows_of_mem_chain hchain hmem
  have hcode := h.code_eq name language hname
  exact ⟨language, hcode ▸ hname⟩

theorem exists_of_loadChain (h : registry.WellFormed) {code : String} {codes : List String}
    (hcodes : registry.fallbackChain code = .ok codes)
    (hfiles : ∀ other ∈ codes, Catalog.load tree folder other = .ok (files other)) :
    ∃ registry', registry.loadChain tree folder code =
        (.ok (codes.foldl (fun total other => total + (files other).size) 0), registry') ∧
      Merged files codes registry registry' := by
  obtain ⟨registry', hload, hmerged⟩ := exists_loadEach_append hfiles
    (fun _ hother => h.exists_of_mem_fallbackChain hcodes hother) 0 []
  refine ⟨registry', ?_, hmerged⟩
  unfold loadChain
  rw [hcodes]
  dsimp only
  rw [List.append_nil] at hload
  rw [hload]
  rfl

theorem exists_of_loadChain_eq_error (h : registry.WellFormed) {code faulty : String}
    {nearer further : List String} {error : FileError}
    (hcodes : registry.fallbackChain code = .ok (nearer ++ faulty :: further))
    (hfiles : ∀ other ∈ nearer, Catalog.load tree folder other = .ok (files other))
    (hfaulty : Catalog.load tree folder faulty = .error error) :
    ∃ registry', registry.loadChain tree folder code = (.error error, registry') ∧
      Merged files nearer registry registry' := by
  have hknown : ∀ other ∈ nearer, ∃ language, registry.language? other = some language :=
    fun _ hother => h.exists_of_mem_fallbackChain hcodes (List.mem_append_left _ hother)
  obtain ⟨registry', hload, hmerged⟩ :=
    exists_loadEach_append hfiles hknown 0 (faulty :: further)
  refine ⟨registry', ?_, hmerged⟩
  unfold loadChain
  rw [hcodes]
  dsimp only
  rw [hload, loadEach, hfaulty]

theorem exists_catalogs_loadEach (tree : FileTree) (folder : String) (loaded : Nat)
    (registry : Registry) (codes : List String) :
    ∃ catalogs, (loadEach tree folder loaded registry codes).2 = { registry with catalogs } := by
  induction codes generalizing loaded registry with
  | nil => exact ⟨registry.catalogs, rfl⟩
  | cons code codes ih =>
    rw [loadEach]
    split
    · exact ⟨registry.catalogs, rfl⟩
    · split
      · exact ⟨registry.catalogs, rfl⟩
      · next updated hupdate =>
        obtain rfl := eq_of_updateTranslations hupdate
        exact ih _ _

theorem exists_catalogs_loadChain (registry : Registry) (tree : FileTree) (folder code : String) :
    ∃ catalogs, (registry.loadChain tree folder code).2 = { registry with catalogs } := by
  unfold loadChain
  split
  · exact ⟨registry.catalogs, rfl⟩
  · exact exists_catalogs_loadEach tree folder 0 registry _

end Phrasebook.Registry
