import Phrasebook.Proofs.Catalog.File
import Phrasebook.Proofs.Language.Limit
import Phrasebook.Proofs.Registry.Growth
import Phrasebook.Proofs.Registry.Loading

/-!
What the loading of a chain comes to. Every file along the chain is merged over the catalog of its
language, up to the first file that is of no use, and nothing else changes
(`loadChain_merges_up_to_fault`). The chain of a language further on is the rest of the chain
(`fallbackChain_of_append`), so each language of the chain finds the text of the nearest file or
catalog, seen from there.
-/
namespace Phrasebook.Registry

variable {registry registry' : Registry} {code : String} {codes : List String}

theorem fallbackChain_of_append (hwell : registry.WellFormed) {nearer further : List String}
    {other : String} (hcodes : registry.fallbackChain code = .ok (nearer ++ other :: further)) :
    registry.fallbackChain other = .ok (other :: further) := by
  obtain ⟨chain, hchain, heq⟩ := exists_of_bind_eq_ok hcodes
  have walk := Languages.walk_of_chain hwell.code_eq hchain
  rw [Except.ok.inj heq] at walk
  have hlength : (nearer ++ other :: further).length ≤ chainLimit := by
    by_contra hlong
    rw [fallbackChain_of_walk hwell walk, if_neg hlong] at hcodes
    contradiction
  rw [List.length_append] at hlength
  rw [fallbackChain_of_walk hwell walk.of_append, if_pos (by omega)]

theorem translation?_of_fallbackChain (hcodes : registry.fallbackChain code = .ok codes)
    (key : String) :
    registry.translation? code key =
      codes.findSome? fun other => registry.localText? other key := by
  obtain ⟨chain, hchain, heq⟩ := exists_of_bind_eq_ok hcodes
  cases heq
  rw [translation?_of_chain hchain, nearest?, List.findSome?_map]
  rfl

namespace Merged

variable {files : String → Catalog}

theorem fallbackChain_eq (h : Merged files codes registry registry') (code : String) :
    registry'.fallbackChain code = registry.fallbackChain code := by
  unfold fallbackChain
  rw [h.languages]

theorem localText?_eq (h : Merged files codes registry registry') (hcode : code ∈ codes)
    (key : String) :
    registry'.localText? code key = ((files code)[key]?).or (registry.localText? code key) := by
  rw [localText?, h.catalog, if_pos hcode, localText?]
  cases registry.catalog? code <;> simp [Catalog.getElem?_mergeCatalog]

/-- A text of a file hides that of the catalog under it, and both hide what is further away. This
holds for every language of the chain, seen from there. -/
theorem translation?_eq (h : Merged files codes registry registry')
    (hwell : registry.WellFormed) (hcodes : registry.fallbackChain code = .ok codes)
    {nearer further : List String} {other : String} (hother : codes = nearer ++ other :: further)
    (key : String) :
    registry'.translation? other key = (other :: further).findSome? fun language =>
      ((files language)[key]?).or (registry.localText? language key) := by
  subst hother
  have hchain := fallbackChain_of_append hwell hcodes
  rw [translation?_of_fallbackChain ((h.fallbackChain_eq other).trans hchain),
    ← List.head?_filterMap, ← List.head?_filterMap]
  refine congrArg List.head? (List.filterMap_congr fun language hlanguage => ?_)
  exact h.localText?_eq (List.mem_append_right nearer hlanguage) key

end Merged

theorem loadChain_merges_up_to_fault (hreachable : Reachable registry) (tree : FileTree)
    (folder code : String) :
    (∀ error, registry.fallbackChain code = .error error →
      registry.loadChain tree folder code = (.error (.language error), registry)) ∧
    ∀ codes, registry.fallbackChain code = .ok codes → ∀ files : String → Catalog,
      ((∀ other ∈ codes, Catalog.Stored tree folder other (.ok (files other))) →
        ∃ registry', registry.loadChain tree folder code =
            (.ok (codes.foldl (fun total other => total + (files other).size) 0), registry') ∧
          Merged files codes registry registry' ∧
          ∀ nearer other further key, codes = nearer ++ other :: further →
            registry'.translation? other key = (other :: further).findSome? fun language =>
              ((files language)[key]?).or (registry.localText? language key)) ∧
      ∀ nearer faulty further error, codes = nearer ++ faulty :: further →
        (∀ other ∈ nearer, Catalog.Stored tree folder other (.ok (files other))) →
        Catalog.Stored tree folder faulty (.error error) →
        ∃ registry', registry.loadChain tree folder code = (.error error, registry') ∧
          Merged files nearer registry registry' := by
  have hwell := wellFormed_of_reachable hreachable
  simp only [Catalog.stored_iff]
  refine ⟨fun error herror => ?_, fun codes hcodes files => ⟨fun hfiles => ?_, ?_⟩⟩
  · unfold loadChain
    rw [herror]
  · obtain ⟨registry', hload, hmerged⟩ := exists_of_loadChain hwell hcodes hfiles
    exact ⟨registry', hload, hmerged, fun nearer other further key hother =>
      hmerged.translation?_eq hwell hcodes hother key⟩
  · rintro nearer faulty further error rfl hfiles hfaulty
    exact exists_of_loadChain_eq_error hwell hcodes hfiles hfaulty

/-- The file of Austrian German is in order, the one of German ends too early, and the root has
none. -/
def brokenFolder : FileTree where
  entries := .ofList [
    ([".", "locales"], Entry.directory),
    ([".", "locales", "de_AT.json"], Entry.text (Catalog.ofPairs [("Hello", "Servus")]).fileText),
    ([".", "locales", "de.json"], Entry.text "\x7b")]

theorem loadChain_merges_up_to_fault_german :
    Reachable (standard .strict) ∧
      (standard .strict).fallbackChain "root" = .ok ["root"] ∧
      Catalog.Stored brokenFolder "locales" "root" (.ok ∅) ∧
      (∃ registry', (standard .strict).loadChain brokenFolder "locales" "root" =
        (.ok 0, registry')) ∧
      (standard .strict).fallbackChain "de_AT" = .ok ["de_AT", "de", "root"] ∧
      Catalog.Stored brokenFolder "locales" "de_AT"
        (.ok (Catalog.ofPairs [("Hello", "Servus")])) ∧
      Catalog.Stored brokenFolder "locales" "de"
        (.error (.unparsableCatalog "locales/de.json")) ∧
      ∃ registry', (standard .strict).loadChain brokenFolder "locales" "de_AT" =
          (.error (.unparsableCatalog "locales/de.json"), registry') ∧
        registry'.localText? "de_AT" "Hello" = some "Servus" := by
  have hroot : Catalog.Stored brokenFolder "locales" "root" (.ok ∅) :=
    .absent (by decide +kernel)
  have haustrian : Catalog.Stored brokenFolder "locales" "de_AT"
      (.ok (Catalog.ofPairs [("Hello", "Servus")])) :=
    .catalog (by decide +kernel) (Catalog.ofText?_fileText _)
  have hread : brokenFolder.read? (Catalog.path "locales" "de") = some "\x7b" := by
    decide +kernel
  have htext : Catalog.ofText? "\x7b" = none :=
    Option.isNone_iff_eq_none.1 (by decide +kernel)
  have hgerman : Catalog.Stored brokenFolder "locales" "de"
      (.error (.unparsableCatalog "locales/de.json")) := by
    have hpath : Catalog.path "locales" "de" = "locales/de.json" := by decide +kernel
    rw [← hpath]
    exact .unparsable hread htext
  have hrootChain : (standard .strict).fallbackChain "root" = .ok ["root"] := rfl
  have hchain : (standard .strict).fallbackChain "de_AT" = .ok ["de_AT", "de", "root"] := rfl
  have hreachable : Reachable (standard .strict) := .standard .strict
  have hload := loadChain_merges_up_to_fault hreachable brokenFolder "locales" "root"
  obtain ⟨registry', hrootLoad, -⟩ := (hload.2 _ hrootChain fun _ => ∅).1 (by simpa using hroot)
  have hload' := loadChain_merges_up_to_fault hreachable brokenFolder "locales" "de_AT"
  obtain ⟨registry'', hfail, hmerged⟩ :=
    (hload'.2 _ hchain fun _ => Catalog.ofPairs [("Hello", "Servus")]).2 ["de_AT"] "de" ["root"] _
      rfl (by simpa using haustrian) hgerman
  refine ⟨hreachable, hrootChain, hroot, ⟨registry', hrootLoad⟩, hchain, haustrian, hgerman,
    registry'', hfail, ?_⟩
  rw [hmerged.localText?_eq (List.mem_singleton_self _)]
  rfl

end Phrasebook.Registry
