import Phrasebook.CommandLine.Run
import Phrasebook.Proofs.Catalog.RoundTrip
import Phrasebook.Proofs.Source.Extraction

/-!
Extraction once more. A first run changes no text but that of the catalog file, so a second run
finds other keys only there (`Extracts.asks_saved_iff`), and only if that file is a part of the
codebase. Whether the catalog stays as it is then depends on the calls that its own text seems to
hold (`run_extract_again`), such as one that a key quotes.
-/
namespace Phrasebook.CommandLine

abbrev knownLanguages : Languages :=
  (Registry.standard .passthrough).languages

/-- The calls in the text of a catalog ask for no key that it lacks. -/
def CoversItself (language callee : String) (catalog : Catalog) : Prop :=
  ∀ key, Catalog.Derives knownLanguages language (Source.patterns callee catalog.fileText) key →
    key ∈ catalog

/-- What a successful extraction left: a catalog in its file, up to date with the texts that were
there before. -/
structure Extracts (tree saved : FileTree) (folder language codebase callee : String)
    (options : ExtractionOptions) (catalog : Catalog) (root target : Location) : Prop where
  contains_language : knownLanguages.contains language = true
  locate_eq : tree.locate codebase = some root
  savedAt : Catalog.SavedAt tree saved folder language catalog target
  load_eq : Catalog.load saved folder language = .ok catalog
  ne_empty : options.discardEmpty = true → ∀ key : String, catalog[key]? ≠ some ""
  asks_of_mem : options.discardUnused = true → ∀ key ∈ catalog,
    Source.Asks tree callee codebase knownLanguages language key
  mem_of_asks : options.discardEmpty = false → ∀ key,
    Source.Asks tree callee codebase knownLanguages language key → key ∈ catalog

variable {tree saved : FileTree} {folder language codebase callee output : String}
  {options : ExtractionOptions} {catalog known : Catalog} {root target : Location}

theorem extracted_of_load (hlanguage : knownLanguages.contains language = true)
    (hload : Catalog.load tree folder language = .ok known) :
    extracted tree folder language codebase callee options =
      liftFileError ((Source.scan tree callee codebase).map fun sources =>
        Catalog.extract knownLanguages language options sources known) := by
  unfold extracted
  simp only [hlanguage, hload]
  unfold Source.extract
  cases Source.scan tree callee codebase <;> rfl

theorem exists_of_extracted {report : ExtractionReport}
    (h : extracted tree folder language codebase callee options = .ok (catalog, report)) :
    knownLanguages.contains language = true ∧
      ∃ known sources, Catalog.load tree folder language = .ok known ∧
        Source.scan tree callee codebase = .ok sources ∧
        Catalog.extract knownLanguages language options sources known = (catalog, report) := by
  cases hlanguage : knownLanguages.contains language with
  | false =>
    simp only [extracted, hlanguage] at h
    contradiction
  | true =>
    cases hload : Catalog.load tree folder language with
    | error error =>
      simp only [extracted, hlanguage, hload] at h
      contradiction
    | ok known =>
      rw [extracted_of_load hlanguage hload] at h
      cases hscan : Source.scan tree callee codebase with
      | error error =>
        rw [hscan] at h
        contradiction
      | ok sources =>
        rw [hscan] at h
        exact ⟨rfl, known, sources, rfl, rfl, Except.ok.inj h⟩

theorem exists_of_extract
    (h : extract tree folder language codebase callee options = (saved, .ok output)) :
    knownLanguages.contains language = true ∧
      ∃ known sources, Catalog.load tree folder language = .ok known ∧
        Source.scan tree callee codebase = .ok sources ∧ ∃ catalog report file,
        Catalog.extract knownLanguages language options sources known = (catalog, report) ∧
        Catalog.save tree folder language catalog = (saved, .ok file) ∧
        output = lines [report.toJson.prettyText "  "] := by
  unfold extract at h
  split at h
  · simp at h
  · next catalog report hextracted =>
    obtain ⟨hlanguage, known, sources, hload, hscan, hextract⟩ := exists_of_extracted hextracted
    split at h
    · simp at h
    · next saved' file hsave =>
      cases h
      exact ⟨hlanguage, known, sources, hload, hscan, catalog, report, file, hextract, hsave, rfl⟩

theorem exists_extracts
    (h : extract tree folder language codebase callee options = (saved, .ok output)) :
    ∃ catalog root target,
      Extracts tree saved folder language codebase callee options catalog root target := by
  obtain ⟨hlanguage, known, sources, -, hscan, catalog, report, file, hextract, hsave, -⟩ :=
    exists_of_extract h
  obtain ⟨root, hroot⟩ := Source.exists_locate_of_scan hscan
  obtain ⟨target, hsavedAt⟩ := Catalog.exists_savedAt hsave
  obtain rfl := congrArg Prod.fst hextract
  refine ⟨_, root, target, hlanguage, hroot, hsavedAt, Catalog.load_of_save hsave,
    Catalog.getElem?_extract_ne_empty, fun hunused key hkey => ?_, fun hempty key hasks => ?_⟩
  · exact (Source.derives_iff_asks hscan).1 (Catalog.derives_of_mem_extract hunused hkey)
  · rw [← Source.derives_iff_asks hscan] at hasks
    exact Catalog.mem_extract_of_mem_blank hempty (Catalog.mem_blank.2 hasks) known

namespace Extracts

variable (h : Extracts tree saved folder language codebase callee options catalog root target)

include h

theorem locate_saved : saved.locate codebase = some root :=
  h.savedAt.extends_.locate_eq h.locate_eq

theorem asks_saved_iff {key : String} :
    Source.Asks saved callee codebase knownLanguages language key ↔
      (root <+: target ∧ Catalog.Derives knownLanguages language
        (Source.patterns callee catalog.fileText) key) ∨
      ∃ file ≠ target, ∃ content, root <+: file ∧ tree.entry? file = some (.text content) ∧
        Catalog.Derives knownLanguages language (Source.patterns callee content) key := by
  constructor
  · rintro ⟨root', file, content, hlocate, hbelow, hentry, hderives⟩
    obtain rfl := Option.some.inj (h.locate_saved.symm.trans hlocate)
    by_cases hfile : file = target
    · subst hfile
      rw [h.savedAt.entry_eq] at hentry
      cases hentry
      exact .inl ⟨hbelow, hderives⟩
    · exact .inr ⟨file, hfile, content, hbelow, (h.savedAt.text_iff hfile).1 hentry, hderives⟩
  · rintro (⟨hbelow, hderives⟩ | ⟨file, hfile, content, hbelow, hentry, hderives⟩)
    · exact ⟨root, target, _, h.locate_saved, hbelow, h.savedAt.entry_eq, hderives⟩
    · exact ⟨root, file, content, h.locate_saved, hbelow, (h.savedAt.text_iff hfile).2 hentry,
        hderives⟩

theorem forall_mem_iff (hempty : options.discardEmpty = false) :
    (∀ key, Source.Asks saved callee codebase knownLanguages language key → key ∈ catalog) ↔
      (root <+: target → CoversItself language callee catalog) := by
  constructor
  · exact fun hall hbelow key hderives => hall key (h.asks_saved_iff.2 (.inl ⟨hbelow, hderives⟩))
  · intro hcomplete key hasks
    rcases h.asks_saved_iff.1 hasks with ⟨hbelow, hderives⟩ | ⟨file, -, content, hbelow, hentry,
      hderives⟩
    · exact hcomplete hbelow key hderives
    · exact h.mem_of_asks hempty key ⟨root, file, content, h.locate_eq, hbelow, hentry, hderives⟩

theorem forall_asks_of_not_below (hunused : options.discardUnused = true)
    (hbelow : ¬ root <+: target) :
    ∀ key ∈ catalog, Source.Asks saved callee codebase knownLanguages language key := by
  intro key hkey
  obtain ⟨root', file, content, hlocate, hbelow', hentry, hderives⟩ :=
    h.asks_of_mem hunused key hkey
  obtain rfl := Option.some.inj (h.locate_eq.symm.trans hlocate)
  have hfile : file ≠ target := by
    rintro rfl
    exact hbelow hbelow'
  exact h.asks_saved_iff.2 (.inr ⟨file, hfile, content, hbelow', hentry, hderives⟩)

theorem extract_eq_self_iff {sources : List String}
    (hscan : Source.scan saved callee codebase = .ok sources) :
    (Catalog.extract knownLanguages language options sources catalog).1 = catalog ↔
      (root <+: target →
        (options.discardEmpty = false → CoversItself language callee catalog) ∧
        (options.discardUnused = true → ∀ key ∈ catalog,
          Source.Asks saved callee codebase knownLanguages language key)) := by
  rw [Catalog.extract_eq_self_iff h.ne_empty]
  simp only [Source.derives_iff_asks hscan]
  constructor
  · rintro ⟨hunused, hempty⟩ hbelow
    exact ⟨fun hoption => (h.forall_mem_iff hoption).1 (hempty hoption) hbelow, hunused⟩
  · intro hstays
    refine ⟨fun hoption => ?_, fun hoption => ?_⟩
    · by_cases hbelow : root <+: target
      · exact (hstays hbelow).2 hoption
      · exact h.forall_asks_of_not_below hoption hbelow
    · exact (h.forall_mem_iff hoption).2 fun hbelow => (hstays hbelow).1 hoption

theorem added_eq_nil_iff (hempty : options.discardEmpty = false) {sources : List String}
    (hscan : Source.scan saved callee codebase = .ok sources) :
    (Catalog.extract knownLanguages language options sources catalog).2.added = [] ↔
      (root <+: target → CoversItself language callee catalog) := by
  rw [← h.forall_mem_iff hempty, List.eq_nil_iff_forall_not_mem]
  have hadded := (Catalog.renews_extract knownLanguages language options sources catalog).added
  simp only [hadded.mem_iff, Source.derives_iff_asks hscan]
  exact forall_congr' fun key => by
    rw [not_and, Classical.not_not]

theorem extract_again :
    (∃ shown entry, (shown, entry) ∈ saved.below codebase root ∧ Location.isPath shown = false ∧
      extract saved folder language codebase callee options =
        (saved, .error (.file (.unreachable shown)))) ∨
    ∃ next report,
      extracted saved folder language codebase callee options = .ok (next, report) ∧
      extract saved folder language codebase callee options =
        (saved.insert target (.text next.fileText), .ok (lines [report.toJson.prettyText "  "])) ∧
      (next.fileText = catalog.fileText ↔ (root <+: target →
        (options.discardEmpty = false → CoversItself language callee catalog) ∧
        (options.discardUnused = true → ∀ key ∈ catalog,
          Source.Asks saved callee codebase knownLanguages language key))) ∧
      (options.discardEmpty = false →
        (report.added = [] ↔ (root <+: target → CoversItself language callee catalog))) := by
  unfold extract
  rw [extracted_of_load h.contains_language h.load_eq]
  rcases Source.scan_eq_or h.locate_saved callee with
    ⟨shown, entry, hbelow, hpath, hscan⟩ | ⟨sources, hscan⟩
  · rw [hscan]
    exact .inl ⟨shown, entry, hbelow, hpath, rfl⟩
  · rw [hscan]
    refine .inr ⟨(Catalog.extract knownLanguages language options sources catalog).1,
      (Catalog.extract knownLanguages language options sources catalog).2, rfl, ?_, ?_,
      fun hempty => h.added_eq_nil_iff hempty hscan⟩
    · simp only [Except.map, liftFileError, h.savedAt.save_again]
    · rw [Catalog.fileText_inj]
      exact h.extract_eq_self_iff hscan

end Extracts

theorem variableText_of_savedAt
    (h : Catalog.SavedAt tree saved folder language catalog target) :
    variableText saved = variableText tree := by
  have hkept (directory : Location) :
      saved.file? (directory ++ [".env"]) = tree.file? (directory ++ [".env"]) :=
    h.file?_eq (h.ne_of_not_suffix (by decide))
  have hnearest : saved.nearestFile? ".env" = tree.nearestFile? ".env" := by
    ext entry
    simp only [FileTree.nearestFile?_eq_some_iff, h.extends_.workingDirectory_eq, hkept]
  unfold variableText
  rw [hnearest]

section

variable {filterVariable : String} {arguments : List String} {environment given : Variables}
  {invocation : Invocation} {settings : Settings} {callee? : Option String}

theorem execute_extract (haction : invocation.action = .extract codebase callee? options)
    (hlanguage : (invocation.language <|> settings.language) = some language) (tree : FileTree) :
    ∃ notes, execute settings tree invocation =
      { ofExcept
          (extract tree (invocation.folder.getD settings.languageFolder) language codebase
            (callee?.getD settings.callee) options).1
          (extract tree (invocation.folder.getD settings.languageFolder) language codebase
            (callee?.getD settings.callee) options).2 with notes } := by
  unfold execute
  simp only [hlanguage, haction]
  exact ⟨_, rfl⟩

@[simp] theorem tree_ofExcept (tree : FileTree) (result : Except Failure String) :
    (ofExcept tree result).tree = tree := by
  cases result <;> rfl

theorem exists_of_exitCode {result : Except Failure String}
    (h : (ofExcept tree result).exitCode = 0) : ∃ output, result = .ok output := by
  cases result with
  | error failure => simp [ofExcept, fail] at h
  | ok output => exact ⟨output, rfl⟩

theorem run_of_success (hparse : parse arguments = .ok invocation)
    (hgiven : allVariables? environment tree = some given)
    (hsuccess : (run filterVariable arguments environment tree).exitCode = 0) {later : FileTree}
    (hlater : variableText later = variableText tree) :
    ∃ complaints notes, run filterVariable arguments environment later =
      { execute (.ofVariables (given[·]?)) later invocation with complaints, notes } := by
  have hgiven' : allVariables? environment later = some given := by
    rw [allVariables?, hlater]
    exact hgiven
  unfold run at hsuccess ⊢
  simp only [hgiven, hgiven'] at hsuccess ⊢
  split at hsuccess
  · simp [breakOff] at hsuccess
  · simp only [runWith, hparse]
    exact ⟨_, _, rfl⟩

theorem exists_extract_of_run (hparse : parse arguments = .ok invocation)
    (haction : invocation.action = .extract codebase callee? options)
    (hgiven : allVariables? environment tree = some given)
    (hsettings : Settings.ofVariables (given[·]?) = settings)
    (hlanguage : (invocation.language <|> settings.language) = some language)
    (hsuccess : (run filterVariable arguments environment tree).exitCode = 0) {later : FileTree}
    (hlater : variableText later = variableText tree) :
    ∃ complaints notes, run filterVariable arguments environment later =
      { ofExcept
          (extract later (invocation.folder.getD settings.languageFolder) language codebase
            (callee?.getD settings.callee) options).1
          (extract later (invocation.folder.getD settings.languageFolder) language codebase
            (callee?.getD settings.callee) options).2 with complaints, notes } := by
  subst hsettings
  obtain ⟨complaints, notes, hrun⟩ := run_of_success hparse hgiven hsuccess hlater
  obtain ⟨_, hexecute⟩ := execute_extract haction hlanguage later
  rw [hexecute] at hrun
  exact ⟨complaints, notes, hrun⟩

/-- To extract once more writes a catalog to the same place and nothing else, unless a path in the
codebase has become too long. Where that place is not in the codebase, the catalog is the same and
no key is added. Where it is, none is added if the calls in the text of the catalog ask for none,
and the catalog is the same if in addition, where unused keys are discarded, all its keys are still
asked for. -/
theorem run_extract_again {first second : Outcome} (hparse : parse arguments = .ok invocation)
    (haction : invocation.action = .extract codebase callee? options)
    (hgiven : allVariables? environment tree = some given)
    (hsettings : Settings.ofVariables (given[·]?) = settings)
    (hlanguage : (invocation.language <|> settings.language) = some language)
    (hfolder : invocation.folder.getD settings.languageFolder = folder)
    (hcallee : callee?.getD settings.callee = callee)
    (hfirst : run filterVariable arguments environment tree = first) (hsuccess : first.exitCode = 0)
    (hsecond : run filterVariable arguments environment first.tree = second) :
    ∃ catalog root target, first.tree.locate (Catalog.path folder language) = some target ∧
      first.tree.entry? target = some (.text catalog.fileText) ∧
      Catalog.Stored first.tree folder language (.ok catalog) ∧
      first.tree.locate codebase = some root ∧
      ((∃ shown entry, (shown, entry) ∈ first.tree.below codebase root ∧
          Location.isPath shown = false ∧ second.exitCode = 1 ∧
          second.errors = lines ["Error: Failed to stat " ++ shown] ∧ second.tree = first.tree) ∨
        ∃ next report,
          extracted first.tree folder language codebase callee options = .ok (next, report) ∧
          second.exitCode = 0 ∧ second.output = lines [report.toJson.prettyText "  "] ∧
          second.tree = first.tree.insert target (.text next.fileText) ∧
          (next.fileText = catalog.fileText ↔ (root <+: target →
            (options.discardEmpty = false → CoversItself language callee catalog) ∧
            (options.discardUnused = true → ∀ key ∈ catalog,
              Source.Asks first.tree callee codebase knownLanguages language key))) ∧
          (options.discardEmpty = false → (report.added = [] ↔
            (root <+: target → CoversItself language callee catalog)))) := by
  subst hfirst hsecond hfolder hcallee
  have hrun (later : FileTree) (hlater : variableText later = variableText tree) :=
    exists_extract_of_run hparse haction hgiven hsettings hlanguage hsuccess hlater
  obtain ⟨_, _, hfirst⟩ := hrun tree rfl
  obtain ⟨output, hextract⟩ : ∃ output,
      extract tree (invocation.folder.getD settings.languageFolder) language codebase
        (callee?.getD settings.callee) options =
          ((run filterVariable arguments environment tree).tree, .ok output) := by
    rw [hfirst] at hsuccess ⊢
    obtain ⟨output, houtput⟩ := exists_of_exitCode hsuccess
    exact ⟨output, by rw [← houtput]; simp⟩
  obtain ⟨catalog, root, target, h⟩ := exists_extracts hextract
  obtain ⟨_, _, hsecond⟩ := hrun _ (variableText_of_savedAt h.savedAt)
  refine ⟨catalog, root, target, h.savedAt.locate_eq, h.savedAt.entry_eq,
    Catalog.stored_iff.2 h.load_eq, h.locate_saved, ?_⟩
  rw [hsecond]
  rcases h.extract_again with ⟨shown, entry, hbelow, hpath, hagain⟩ |
    ⟨next, report, hextracted, hagain, htext, hadded⟩
  · rw [hagain]
    exact .inl ⟨shown, entry, hbelow, hpath, rfl, rfl, rfl⟩
  · rw [hagain]
    exact .inr ⟨next, report, hextracted, rfl, rfl, rfl, htext, hadded⟩

end

def extractAbove : List String :=
  ["extract", "--codebase", ".."]

def greetingFiles : FileTree where
  workingDirectory := ["home"]
  entries := .ofList [
    ([".env"], Entry.text "TRANSLATABLES_LANGUAGE=de"),
    (["home", "app.js"], Entry.text "t('Hello {name}')")]

/-- The catalog is one of the files that are searched, as the codebase is the directory above that
in which it lies, but nothing in it looks like a call. -/
theorem run_extract_again_greeting :
    ∃ first second content, run "RUST_LOG" extractAbove ∅ greetingFiles = first ∧
      run "RUST_LOG" extractAbove ∅ first.tree = second ∧ second.exitCode = 0 ∧
      first.tree.entry? ["home", "de.json"] = some (.text content) ∧
      second.tree.entry? ["home", "de.json"] = some (.text content) := by
  have hsettings : (allVariables? ∅ greetingFiles).map (fun given =>
      let settings := Settings.ofVariables (given[·]?)
      (settings.language, settings.languageFolder, settings.callee)) =
        some (some "de", "./", "t") := by
    decide +kernel
  obtain ⟨given, hgiven, hsettings⟩ := Option.map_eq_some_iff.1 hsettings
  simp only [Prod.mk.injEq] at hsettings
  obtain ⟨hlanguage, hfolder, hcallee⟩ := hsettings
  have hparse : parse extractAbove =
      .ok { language := none, folder := none, action := .extract ".." none {} } := by
    with_unfolding_all rfl
  have hruns : ∃ first second, run "RUST_LOG" extractAbove ∅ greetingFiles = first ∧
      run "RUST_LOG" extractAbove ∅ first.tree = second ∧ first.exitCode = 0 ∧
      second.exitCode = 0 ∧ first.tree.locate (Catalog.path "./" "de") = some ["home", "de.json"] ∧
      first.tree.entry? ["home", "de.json"] =
        some (.text "\x7b\n\t\"Hello {plain(plain(name))}\": \"\"\n\x7d") :=
    ⟨_, _, rfl, rfl, by decide +kernel⟩
  obtain ⟨first, second, hfirst, hsecond, hsuccess, hsuccess', hfound, htext⟩ := hruns
  obtain ⟨catalog, root, target, hlocate, hentry, -, -, hagain⟩ :=
    run_extract_again hparse rfl hgiven rfl hlanguage hfolder hcallee hfirst hsuccess hsecond
  obtain rfl : ["home", "de.json"] = target := Option.some.inj (hfound.symm.trans hlocate)
  have hcovers : CoversItself "de" "t" catalog := by
    rw [htext, Option.some.injEq, Entry.text.injEq] at hentry
    have hcalls : Source.patterns "t" catalog.fileText = [] := by
      rw [← hentry]
      decide +kernel
    rintro key ⟨source, hsource, -⟩
    rw [hcalls] at hsource
    contradiction
  refine ⟨first, second, catalog.fileText, hfirst, hsecond, hsuccess', hentry, ?_⟩
  rcases hagain with ⟨_, _, -, -, hfails, -⟩ | ⟨next, report, -, -, -, htree, hstays, -⟩
  · rw [hsuccess'] at hfails
    contradiction
  · rw [htree, hstays.2 fun _ => ⟨fun _ => hcovers, fun hunused => by contradiction⟩,
      FileTree.entry?_insert (by simp [hentry]), if_pos rfl]

def extractHere : List String :=
  ["--language", "de", "extract", "--codebase", "."]

def quotedFiles : FileTree where
  entries := .ofList [([".", "app.js"], Entry.text "t(\"Say t('foo')\")")]

/-- What a key quotes is taken for a call once the key stands in a file that is searched. -/
theorem run_extract_again_quoted :
    ∃ first second, run "RUST_LOG" extractHere ∅ quotedFiles = first ∧
      run "RUST_LOG" extractHere ∅ first.tree = second ∧
      first.exitCode = 0 ∧ second.exitCode = 0 ∧
      first.tree.read? "./de.json" = some "\x7b\n\t\"Say t('foo')\": \"\"\n\x7d" ∧
      second.tree.read? "./de.json" =
        some "\x7b\n\t\"Say t('foo')\": \"\",\n\t\"foo\": \"\"\n\x7d" ∧
      (extracted first.tree "./" "de" "." "t" {}).toOption.map (·.2.added) = some ["foo"] :=
  ⟨_, _, rfl, rfl, by decide +kernel⟩

end Phrasebook.CommandLine
