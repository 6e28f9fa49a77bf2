import Phrasebook.Proofs.Catalog.Extraction
import Phrasebook.Proofs.FileTree.Layout
import Phrasebook.Source.Codebase

/-!
From a codebase to the keys of a catalog. A successful scan comes back with the patterns of all
texts at its path and below, no matter how deep (`mem_scan_iff`), and extraction has an entry for
each of their keys, which are those that the calls in these texts ask for (`derives_iff_asks`).
-/
namespace Phrasebook

theorem Entry.eq_text_of_text? {entry : Entry} {content : String}
    (h : entry.text? = some content) : entry = .text content := by
  cases entry with
  | text => exact congrArg Entry.text (Option.some.inj h)
  | binary => contradiction
  | directory => contradiction

namespace Source

variable {tree : FileTree} {callee path : String}

def Occurs (tree : FileTree) (callee path source : String) : Prop :=
  ∃ (location file : Location) (content : String), tree.locate path = some location ∧
    location <+: file ∧ tree.entry? file = some (.text content) ∧
      source ∈ patterns callee content

theorem mem_texts_below {location : Location} {content : String} :
    content ∈ (tree.below path location).filterMap (fun (_, entry) => entry.text?) ↔
      ∃ file : Location, location <+: file ∧ tree.entry? file = some (.text content) := by
  rw [List.mem_filterMap]
  constructor
  · rintro ⟨⟨shown, entry⟩, hmem, htext⟩
    obtain rfl := Entry.eq_text_of_text? htext
    obtain ⟨file, hbelow, hentry, -⟩ := FileTree.mem_below.1 hmem
    exact ⟨file, hbelow, hentry⟩
  · rintro ⟨file, hbelow, hentry⟩
    exact ⟨(_, .text content), FileTree.mem_below.2 ⟨file, hbelow, hentry, rfl⟩, rfl⟩

theorem mem_scan_iff {sources : List String} (h : scan tree callee path = .ok sources)
    {source : String} : source ∈ sources ↔ Occurs tree callee path source := by
  unfold scan at h
  split at h
  · contradiction
  · next location hlocate =>
    dsimp only at h
    split at h
    · contradiction
    · cases h
      simp only [patternsOf, mem_sortedDistinct, List.mem_flatMap, mem_texts_below]
      constructor
      · rintro ⟨content, ⟨file, hbelow, hentry⟩, hsource⟩
        exact ⟨location, file, content, hlocate, hbelow, hentry, hsource⟩
      · rintro ⟨location', file, content, hlocate', hbelow, hentry, hsource⟩
        obtain rfl : location = location' := Option.some.inj (hlocate.symm.trans hlocate')
        exact ⟨content, ⟨file, hbelow, hentry⟩, hsource⟩

theorem enumerates_of_scan {sources : List String} (h : scan tree callee path = .ok sources) :
    Enumerates sources (Occurs tree callee path) where
  ascending := by
    unfold scan at h
    split at h
    · contradiction
    · dsimp only at h
      split at h
      · contradiction
      · cases h
        exact (enumerates_sortedDistinct _).ascending
  mem_iff _ := mem_scan_iff h

theorem scan_eq_or {location : Location} (h : tree.locate path = some location) (callee : String) :
    (∃ shown entry, (shown, entry) ∈ tree.below path location ∧ Location.isPath shown = false ∧
      scan tree callee path = .error (.unreachable shown)) ∨
    ∃ sources, scan tree callee path = .ok sources := by
  unfold scan
  rw [h]
  dsimp only
  split
  · next shown entry hfound =>
    have hpath := List.find?_some hfound
    exact .inl ⟨shown, entry, List.mem_of_find?_eq_some hfound, by simpa using hpath, rfl⟩
  · exact .inr ⟨_, rfl⟩

theorem exists_locate_of_scan {sources : List String} (h : scan tree callee path = .ok sources) :
    ∃ location, tree.locate path = some location := by
  unfold scan at h
  split at h
  · contradiction
  · next location hlocate => exact ⟨location, hlocate⟩

variable {languages : Languages} {code : String} {options : ExtractionOptions}
  {catalog extracted : Catalog} {report : ExtractionReport}

def Asks (tree : FileTree) (callee path : String) (languages : Languages) (code key : String) :
    Prop :=
  ∃ (location file : Location) (content : String), tree.locate path = some location ∧
    location <+: file ∧ tree.entry? file = some (.text content) ∧
      Catalog.Derives languages code (patterns callee content) key

theorem derives_iff_asks {sources : List String} (h : scan tree callee path = .ok sources)
    {key : String} :
    Catalog.Derives languages code sources key ↔ Asks tree callee path languages code key := by
  constructor
  · rintro ⟨source, hsource, hpattern⟩
    obtain ⟨location, file, content, hlocate, hbelow, hentry, hcall⟩ := (mem_scan_iff h).1 hsource
    exact ⟨location, file, content, hlocate, hbelow, hentry, source, hcall, hpattern⟩
  · rintro ⟨location, file, content, hlocate, hbelow, hentry, source, hcall, hpattern⟩
    exact ⟨source, (mem_scan_iff h).2 ⟨location, file, content, hlocate, hbelow, hentry, hcall⟩,
      hpattern⟩

theorem mem_of_extract
    (h : extract tree callee path languages code options catalog = .ok (extracted, report))
    (hoptions : options.discardEmpty = false) {source : String}
    (hoccurs : Occurs tree callee path source) {pattern : Pattern}
    (hpattern : Pattern.parse languages code source = .ok pattern) {key : String}
    (hkey : key ∈ pattern.keys) : key ∈ extracted := by
  obtain ⟨sources, hscan, heq⟩ := exists_of_bind_eq_ok h
  have hblank : key ∈ Catalog.blank languages code sources :=
    Catalog.mem_blank.2 ⟨source, (mem_scan_iff hscan).2 hoccurs, pattern, hpattern, hkey⟩
  have hextracted : (Catalog.extract languages code options sources catalog).1 = extracted :=
    congrArg Prod.fst (Except.ok.inj heq)
  rw [← hextracted]
  exact Catalog.mem_extract_of_mem_blank hoptions hblank catalog

end Source

end Phrasebook
