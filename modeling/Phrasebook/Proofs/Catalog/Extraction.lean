import Phrasebook.Catalog.Extraction
import Phrasebook.Language.Standard
import Phrasebook.Proofs.Catalog.Merge
import Phrasebook.Proofs.Text.ByteOrder

/-!
What extraction leaves in a catalog, and what it reports (`renews_extract`). Derived keys come from
readable patterns alone, each entry that stays has the text it had, and only the options can remove
one. A catalog that has been brought up to date stays as it is under the same patterns
(`extract_eq_self_iff` says which others leave it so).
-/
namespace Phrasebook.Catalog

def Derives (languages : Languages) (code : String) (sources : List String) (key : String) : Prop :=
  ∃ source ∈ sources, ∃ pattern, Pattern.parse languages code source = .ok pattern ∧
    key ∈ pattern.keys

variable {languages : Languages} {code : String} {sources : List String} {key text : String}
  {options : ExtractionOptions} {catalog : Catalog}

theorem mem_blank : key ∈ blank languages code sources ↔ Derives languages code sources key := by
  rw [blank, ofPairs, Std.ExtTreeMap.mem_ofList, List.contains_iff_mem, List.map_flatMap,
    List.mem_flatMap]
  refine exists_congr fun source => and_congr_right fun _ => ?_
  cases Pattern.parse languages code source with
  | error => simp
  | ok pattern => simp

theorem eq_empty_of_blank (h : (blank languages code sources)[key]? = some text) : text = "" := by
  rw [blank, getElem?_ofPairs] at h
  obtain ⟨source, -, hpair⟩ := List.mem_flatMap.1 (mem_of_lastText? h)
  cases hparse : Pattern.parse languages code source with
  | error => simp [hparse] at hpair
  | ok pattern =>
    simp only [hparse, List.mem_map, Prod.mk.injEq] at hpair
    obtain ⟨_, -, -, rfl⟩ := hpair
    rfl

theorem getElem?_blank_eq_some : (blank languages code sources)[key]? = some text ↔
    Derives languages code sources key ∧ text = "" := by
  rw [← mem_blank, Std.ExtTreeMap.mem_iff_isSome_getElem?]
  cases hfound : (blank languages code sources)[key]? with
  | none => simp
  | some found =>
    obtain rfl := eq_empty_of_blank hfound
    simp [eq_comm]

theorem blank_congr {sources' : List String}
    (h : ∀ key, Derives languages code sources' key ↔ Derives languages code sources key) :
    blank languages code sources' = blank languages code sources := by
  apply Std.ExtTreeMap.ext_getElem?
  intro key
  apply Option.ext
  intro text
  rw [getElem?_blank_eq_some, getElem?_blank_eq_some, h]

theorem retains_iff : retains options (blank languages code sources) key text = true ↔
    ¬ (options.discardUnused = true ∧ ¬ Derives languages code sources key) ∧
      ¬ (options.discardEmpty = true ∧ text = "") := by
  rw [← mem_blank]
  obtain ⟨unused, empty⟩ := options
  cases unused <;> cases empty <;> simp [retains]

theorem getElem?_extract (options : ExtractionOptions) (catalog : Catalog) :
    (extract languages code options sources catalog).1[key]? =
      (catalog[key]?.or (blank languages code sources)[key]?).filter
        (retains options (blank languages code sources) key) := by
  simp only [extract, Std.ExtTreeMap.getElem?_filter', getElem?_mergeCatalog]

theorem getElem?_extract_eq_some :
    (extract languages code options sources catalog).1[key]? = some text ↔
      (key ∈ catalog ∨ Derives languages code sources key) ∧
        ¬ (options.discardUnused = true ∧ ¬ Derives languages code sources key) ∧
        ¬ (options.discardEmpty = true ∧ text = "") ∧ text = catalog[key]?.getD "" := by
  rw [getElem?_extract, Option.filter_eq_some_iff, retains_iff,
    Std.ExtTreeMap.mem_iff_isSome_getElem?]
  cases hknown : catalog[key]? with
  | none =>
    rw [Option.none_or, getElem?_blank_eq_some]
    simp only [Option.isSome_none, Bool.false_eq_true, false_or, Option.getD_none]
    grind
  | some known =>
    rw [Option.some_or, Option.some.injEq]
    simp only [Option.isSome_some, true_or, true_and, Option.getD_some]
    grind

theorem mem_extract_of_mem_blank {options : ExtractionOptions}
    (hoptions : options.discardEmpty = false) (h : key ∈ blank languages code sources)
    (catalog : Catalog) : key ∈ (extract languages code options sources catalog).1 := by
  rw [mem_blank] at h
  rw [Std.ExtTreeMap.mem_iff_isSome_getElem?, Option.isSome_iff_exists]
  exact ⟨catalog[key]?.getD "", getElem?_extract_eq_some.2
    ⟨.inr h, fun hunused => hunused.2 h, by simp [hoptions], rfl⟩⟩

structure Renews (languages : Languages) (code : String) (options : ExtractionOptions)
    (sources : List String) (catalog renewed : Catalog) (report : ExtractionReport) : Prop where
  text_iff : ∀ key text, renewed[key]? = some text ↔
    (key ∈ catalog ∨ Derives languages code sources key) ∧
      ¬ (options.discardUnused = true ∧ ¬ Derives languages code sources key) ∧
      ¬ (options.discardEmpty = true ∧ text = "") ∧ text = catalog[key]?.getD ""
  patterns : report.patterns = sources.length
  keys : ∃ derived, Enumerates derived (Derives languages code sources) ∧
    report.keys = derived.length
  added : Enumerates report.added fun key => Derives languages code sources key ∧ key ∉ catalog
  discarded : Enumerates report.discarded fun key =>
    (key ∈ catalog ∨ Derives languages code sources key) ∧ key ∉ renewed
  untranslated : Enumerates report.untranslated fun key => renewed[key]? = some ""
  rejected : report.rejected.map (·.source) =
    sources.filter fun source => (Pattern.parse languages code source).toOption.isNone
  rejected_error : ∀ rejected ∈ report.rejected,
    Pattern.parse languages code rejected.source = .error rejected.error

theorem enumerates_untranslated (catalog : Catalog) :
    Enumerates catalog.untranslated fun key => catalog[key]? = some "" :=
  (enumerates_filter_toList catalog (· == "")).congr fun key => by simp

theorem mem_mergeCatalog {other : Catalog} :
    key ∈ catalog.mergeCatalog other ↔ key ∈ catalog ∨ key ∈ other := by
  rw [mergeCatalog, mem_merge, Std.ExtTreeMap.map_fst_toList_eq_keys, Std.ExtTreeMap.mem_keys]

theorem map_source_rejected (languages : Languages) (code : String) (sources : List String) :
    (rejected languages code sources).map (·.source) =
      sources.filter fun source => (Pattern.parse languages code source).toOption.isNone := by
  induction sources with
  | nil => rfl
  | cons source sources ih =>
    simp only [rejected] at ih ⊢
    cases hparse : Pattern.parse languages code source with
    | ok pattern => simpa [hparse, Except.toOption] using ih
    | error error => simpa [hparse, Except.toOption] using ih

theorem parse_of_mem_rejected {found : RejectedPattern}
    (h : found ∈ rejected languages code sources) :
    Pattern.parse languages code found.source = .error found.error := by
  obtain ⟨source, -, hfound⟩ := List.mem_filterMap.1 h
  cases hparse : Pattern.parse languages code source with
  | ok pattern => simp [hparse] at hfound
  | error error =>
    simp only [hparse, Option.some.injEq] at hfound
    rw [← hfound, hparse]

theorem renews_extract (languages : Languages) (code : String) (options : ExtractionOptions)
    (sources : List String) (catalog : Catalog) :
    Renews languages code options sources catalog
      (extract languages code options sources catalog).1
      (extract languages code options sources catalog).2 where
  text_iff key text := getElem?_extract_eq_some
  patterns := rfl
  keys := by
    refine ⟨(blank languages code sources).keys, (enumerates_keys _).congr fun _ => mem_blank, ?_⟩
    rw [Std.ExtTreeMap.length_keys]
    rfl
  added := ((enumerates_keys _).filter _).congr fun key => by
    rw [mem_blank, Bool.not_eq_true', ← Bool.not_eq_true, Std.ExtTreeMap.contains_iff_mem]
  discarded := ((enumerates_keys _).filter _).congr fun key => by
    rw [mem_mergeCatalog, mem_blank, or_comm, Bool.not_eq_true', ← Bool.not_eq_true,
      Std.ExtTreeMap.contains_iff_mem]
    rfl
  untranslated := enumerates_untranslated _
  rejected := map_source_rejected languages code sources
  rejected_error _ := parse_of_mem_rejected

theorem getElem?_extract_ne_empty (hoption : options.discardEmpty = true) (key : String) :
    (extract languages code options sources catalog).1[key]? ≠ some "" := by
  intro h
  exact (getElem?_extract_eq_some.1 h).2.2.1 ⟨hoption, rfl⟩

theorem derives_of_mem_extract (hoption : options.discardUnused = true)
    (h : key ∈ (extract languages code options sources catalog).1) :
    Derives languages code sources key := by
  have hkept := (getElem?_extract_eq_some.1 (Std.ExtTreeMap.getElem?_eq_some_getElem h)).2.1
  exact Classical.not_not.1 fun hderives => hkept ⟨hoption, hderives⟩

theorem extract_eq_self_iff
    (htexts : options.discardEmpty = true → ∀ key : String, catalog[key]? ≠ some "") :
    (extract languages code options sources catalog).1 = catalog ↔
      (options.discardUnused = true → ∀ key ∈ catalog, Derives languages code sources key) ∧
      (options.discardEmpty = false →
        ∀ key, Derives languages code sources key → key ∈ catalog) := by
  constructor
  · intro h
    refine ⟨fun hunused key hkey => ?_, fun hempty key hderives => ?_⟩
    · rw [← h] at hkey
      exact derives_of_mem_extract hunused hkey
    · rw [← h]
      exact mem_extract_of_mem_blank hempty (mem_blank.2 hderives) catalog
  · rintro ⟨hunused, hempty⟩
    apply Std.ExtTreeMap.ext_getElem?
    intro key
    apply Option.ext
    intro text
    rw [getElem?_extract_eq_some]
    cases hknown : catalog[key]? with
    | none =>
      have hkey : key ∉ catalog := by simp [Std.ExtTreeMap.mem_iff_isSome_getElem?, hknown]
      simp only [hkey, false_or, Option.getD_none, reduceCtorEq, iff_false]
      rintro ⟨hderives, -, hkept, rfl⟩
      cases hoption : options.discardEmpty with
      | false => exact hkey (hempty hoption key hderives)
      | true => exact hkept ⟨hoption, rfl⟩
    | some known =>
      have hkey : key ∈ catalog := (Std.ExtTreeMap.getElem?_eq_some_iff.1 hknown).1
      simp only [hkey, true_or, true_and, Option.getD_some, Option.some.injEq]
      constructor
      · rintro ⟨-, -, rfl⟩
        rfl
      · rintro rfl
        refine ⟨fun hdrop => hdrop.2 (hunused hdrop.1 key hkey), fun hdrop => ?_, rfl⟩
        exact htexts hdrop.1 key (hdrop.2 ▸ hknown)

theorem extract_extract (languages : Languages) (code : String) (options : ExtractionOptions)
    (sources : List String) (catalog : Catalog) :
    (extract languages code options sources
      (extract languages code options sources catalog).1).1 =
        (extract languages code options sources catalog).1 := by
  rw [extract_eq_self_iff getElem?_extract_ne_empty]
  refine ⟨fun hunused key => derives_of_mem_extract hunused, fun hempty key hderives => ?_⟩
  exact mem_extract_of_mem_blank hempty (mem_blank.2 hderives) catalog

/-- Extraction leaves the entries, and reports the changes, that the derived keys and the options
ask for. Which sources are readable is all that counts of them, not how often and where they stand;
to extract once more changes nothing; and as long as unused keys are kept, so is every
translation. -/
theorem extract_brings_up_to_date (languages : Languages) (code : String)
    (options : ExtractionOptions) (sources : List String) (catalog : Catalog) :
    Renews languages code options sources catalog
      (extract languages code options sources catalog).1
      (extract languages code options sources catalog).2 ∧
    (∀ sources', (∀ source pattern, Pattern.parse languages code source = .ok pattern →
        (source ∈ sources' ↔ source ∈ sources)) →
      ∃ patterns rejected, extract languages code options sources' catalog =
        ((extract languages code options sources catalog).1,
          { (extract languages code options sources catalog).2 with patterns, rejected })) ∧
    (extract languages code options sources
      (extract languages code options sources catalog).1).1 =
        (extract languages code options sources catalog).1 ∧
    (options.discardUnused = false → ∀ key text : String, catalog[key]? = some text → text ≠ "" →
      (extract languages code options sources catalog).1[key]? = some text) := by
  refine ⟨renews_extract .., fun sources' hsources => ?_, extract_extract .., ?_⟩
  · have hderives (key : String) :
        Derives languages code sources' key ↔ Derives languages code sources key :=
      exists_congr fun source => and_congr_left fun ⟨pattern, hparse, _⟩ =>
        hsources source pattern hparse
    refine ⟨sources'.length, rejected languages code sources', ?_⟩
    simp only [extract, blank_congr hderives]
  · intro hunused key text htext hne
    rw [getElem?_extract_eq_some, htext]
    have hkey : key ∈ catalog := (Std.ExtTreeMap.getElem?_eq_some_iff.1 htext).1
    exact ⟨.inl hkey, by simp [hunused], fun hdrop => hne hdrop.2, rfl⟩

def oldPairs : List (String × String) :=
  [("old key", "alt"), ("Hello", "Hallo")]

/-- A source that comes again and one that is no pattern make no difference, and a translation stays
although no pattern has its key. -/
theorem extract_brings_up_to_date_old :
    (∃ patterns rejected,
      extract (.ofLanguages Standard.languages) "de" {} ["Bye", "{}", "Bye"]
          (ofPairs oldPairs) =
        ((extract (.ofLanguages Standard.languages) "de" {} ["Bye"] (ofPairs oldPairs)).1,
          { (extract (.ofLanguages Standard.languages) "de" {} ["Bye"] (ofPairs oldPairs)).2 with
            patterns, rejected })) ∧
      (extract (.ofLanguages Standard.languages) "de" {} ["Bye"] (ofPairs oldPairs)).1["old key"]? =
        some "alt" := by
  obtain ⟨-, hsources, -, hkept⟩ := extract_brings_up_to_date (.ofLanguages Standard.languages) "de"
    {} ["Bye"] (ofPairs oldPairs)
  refine ⟨hsources _ fun source pattern hparse => ?_, hkept rfl _ _ (by decide +kernel) (by decide)⟩
  have hrefused : (Pattern.parse (.ofLanguages Standard.languages) "de" "{}").toOption.isNone :=
    rfl
  have hne : source ≠ "{}" := by
    rintro rfl
    rw [hparse] at hrefused
    contradiction
  simp [hne]

end Phrasebook.Catalog
