import Phrasebook.Proofs.Catalog.Pairing
import Phrasebook.Proofs.Text.ByteOrder
import Phrasebook.Proofs.Text.StrayBrace

/-!
Errors of a catalog. The validation passes over a text once, with one bit of memory, and yet finds
exactly the texts with a stray brace (`bracesPairUp_iff_not_hasStrayBrace`). Such a text is the one
error of its entry, which then has no warnings; the errors are told in order of the keys
(`Catalog.errors_eq_map_spoiltKeys`).
-/
namespace Phrasebook

theorem bracesPairUp_iff_not_hasStrayBrace {text : String} :
    bracesPairUp false text.toList = true ↔ ¬ HasStrayBrace text :=
  bracesPairUp_iff.trans not_hasStrayBrace_iff.symm

instance (text : String) : Decidable (HasStrayBrace text) :=
  decidable_of_iff (bracesPairUp false text.toList = false) <| by
    rw [← Bool.not_eq_true, bracesPairUp_iff_not_hasStrayBrace, not_not]

theorem validate_of_hasStrayBrace {text : String} (h : HasStrayBrace text) (key : String) :
    validate key text = [.unpairedBraces] :=
  if_neg fun hpair => bracesPairUp_iff_not_hasStrayBrace.1 hpair h

theorem isError_iff_of_mem_validate {key text : String} {finding : Finding}
    (h : finding ∈ validate key text) : finding.isError = true ↔ HasStrayBrace text := by
  by_cases hstray : HasStrayBrace text
  · rw [validate_of_hasStrayBrace hstray] at h
    obtain rfl := List.mem_singleton.1 h
    exact iff_of_true rfl hstray
  · rw [validate, if_pos (bracesPairUp_iff_not_hasStrayBrace.2 hstray), List.mem_append] at h
    refine iff_of_false (fun herror => ?_) hstray
    rcases h with h | h <;> split at h <;> simp_all [Finding.isError]

namespace Catalog

def IsSpoilt (catalog : Catalog) (key : String) : Prop :=
  ∃ text, catalog[key]? = some text ∧ text ≠ "" ∧ HasStrayBrace text

def spoiltKeys (catalog : Catalog) : List String :=
  (catalog.toList.filter fun entry => entry.2 ≠ "" ∧ HasStrayBrace entry.2).map (·.1)

variable {catalog : Catalog}

theorem enumerates_spoiltKeys (catalog : Catalog) :
    Enumerates catalog.spoiltKeys catalog.IsSpoilt :=
  (enumerates_filter_toList catalog fun text => text ≠ "" ∧ HasStrayBrace text).congr fun key => by
    simp only [IsSpoilt, decide_eq_true_eq]

theorem filter_isError_validate (key text : String) :
    (validate key text).filter (·.isError) =
      if HasStrayBrace text then [.unpairedBraces] else [] := by
  split
  · next hstray =>
    rw [validate_of_hasStrayBrace hstray]
    rfl
  · next hstray =>
    rw [List.filter_eq_nil_iff]
    exact fun finding hfinding herror => hstray ((isError_iff_of_mem_validate hfinding).1 herror)

theorem errors_eq_map_spoiltKeys (catalog : Catalog) :
    catalog.errors = catalog.spoiltKeys.map fun key => ⟨key, .unpairedBraces⟩ := by
  have hentry (key text : String) :
      ((validate key text).map fun finding => EntryFinding.mk key finding).filter
          (·.finding.isError) =
        if HasStrayBrace text then [⟨key, .unpairedBraces⟩] else [] := by
    rw [List.filter_map]
    exact (congrArg (List.map _) (filter_isError_validate key text)).trans (by split <;> rfl)
  simp only [errors, findings, spoiltKeys, List.filter_flatMap, hentry, List.map_map]
  induction catalog.toList with
  | nil => rfl
  | cons entry entries ih =>
    obtain ⟨key, text⟩ := entry
    by_cases hempty : text = ""
    · simpa [hempty] using ih
    · by_cases hstray : HasStrayBrace text <;> simpa [hempty, hstray] using ih

theorem exists_text_of_mem_findings {entry : EntryFinding} (h : entry ∈ catalog.findings) :
    ∃ text, catalog[entry.key]? = some text ∧ text ≠ "" ∧
      entry.finding ∈ validate entry.key text := by
  obtain ⟨⟨key, text⟩, hmem, hentry⟩ := List.mem_flatMap.1 h
  obtain ⟨finding, hfinding, rfl⟩ := List.mem_map.1 hentry
  rw [List.mem_filter, Std.ExtTreeMap.mem_toList_iff_getElem?_eq_some] at hmem
  exact ⟨text, hmem.1, by simpa using hmem.2, hfinding⟩

theorem isError_of_mem_findings {entry entry' : EntryFinding} (h : entry ∈ catalog.findings)
    (h' : entry' ∈ catalog.findings) (hkey : entry.key = entry'.key) :
    entry.finding.isError = entry'.finding.isError := by
  obtain ⟨text, htext, -, hfinding⟩ := exists_text_of_mem_findings h
  obtain ⟨text', htext', -, hfinding'⟩ := exists_text_of_mem_findings h'
  obtain rfl : text = text' := by
    rw [hkey] at htext
    exact Option.some.inj (htext.symm.trans htext')
  rw [Bool.eq_iff_iff, isError_iff_of_mem_validate hfinding, isError_iff_of_mem_validate hfinding']

theorem key_ne_of_error_of_warning {error warning : EntryFinding} (herror : error ∈ catalog.errors)
    (hwarning : warning ∈ catalog.warnings) : error.key ≠ warning.key := by
  intro hkey
  obtain ⟨herror, hisError⟩ := List.mem_filter.1 herror
  obtain ⟨hwarning, hisWarning⟩ := List.mem_filter.1 hwarning
  rw [← isError_of_mem_findings herror hwarning hkey, hisError] at hisWarning
  contradiction

end Catalog

end Phrasebook
