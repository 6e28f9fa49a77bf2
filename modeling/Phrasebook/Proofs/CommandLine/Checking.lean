import Phrasebook.Proofs.Catalog.Errors
import Phrasebook.Proofs.CommandLine.Effect

/-!
Checks of a catalog. A check fails exactly if some entry of the catalog has a text with a stray
brace. It tells the keys of all such entries in order, and at the end how many they are
(`check_tells_stray_braces`).
-/
namespace Phrasebook.CommandLine

/-- The run is a check of the stored catalog of a language, and this is the catalog. -/
inductive Checks (filterVariable : String) (arguments : List String) (environment : Variables)
    (tree : FileTree) (language : String) (catalog : Catalog) : Prop
  | intro {given : Variables} {settings : Settings} {invocation : Invocation}
      (hgiven : allVariables? environment tree = some given)
      (hfilter : (NoteFilter.ofText (given[filterVariable]?.getD "")).2 = true)
      (hsettings : settings = Settings.ofVariables (given[·]?))
      (hparse : parse arguments = .ok invocation) (haction : invocation.action = .check)
      (hlanguage : (invocation.language <|> settings.language) = some language)
      (hstored : Catalog.Stored tree (invocation.folder.getD settings.languageFolder) language
        (.ok catalog))

variable {filterVariable language folder : String} {arguments : List String}
  {environment : Variables} {tree : FileTree} {catalog : Catalog} {settings : Settings}
  {invocation : Invocation}

theorem exists_execute_check (haction : invocation.action = .check)
    (hlanguage : (invocation.language <|> settings.language) = some language)
    (hstored : Catalog.Stored tree (invocation.folder.getD settings.languageFolder) language
      (.ok catalog)) :
    ∃ notes, execute settings tree invocation =
      { checkOutcome tree language catalog.errors with notes } := by
  refine ⟨loadNotes tree (invocation.folder.getD settings.languageFolder) language, ?_⟩
  rw [execute, hlanguage]
  simp only [haction, check, Catalog.stored_iff.1 hstored]
  rfl

theorem Checks.exists_run
    (h : Checks filterVariable arguments environment tree language catalog) :
    ∃ complaints notes, run filterVariable arguments environment tree =
      { checkOutcome tree language catalog.errors with complaints, notes } := by
  obtain ⟨hgiven, hfilter, rfl, hparse, haction, hlanguage, hstored⟩ := h
  obtain ⟨notes, hexecute⟩ := exists_execute_check haction hlanguage hstored
  unfold run
  rw [hgiven]
  dsimp only
  split
  · next filter hread =>
    rw [hread] at hfilter
    contradiction
  · next filter _ =>
    refine ⟨filter.complaints, notes.filter filter.shows, ?_⟩
    rw [runWith, hparse]
    simp only [hexecute]

theorem exitCode_checkOutcome (errors : List EntryFinding) :
    (checkOutcome tree language errors).exitCode = if errors = [] then 0 else 1 := by
  cases errors <;> rfl

def checkText (language : String) (keys : List String) : String :=
  if keys = [] then ""
  else
    lines (keys.map fun key => "error: " ++ quoted key ++ ": Unbalanced braces in translation") ++
      lines ["Error: Catalog for " ++ language ++ " has " ++ toString keys.length ++
        " invalid entries"]

theorem errors_checkOutcome (keys : List String) :
    (checkOutcome tree language (keys.map (⟨·, .unpairedBraces⟩))).errors =
      checkText language keys := by
  have hfinding : ": " ++ Finding.unpairedBraces.message = ": Unbalanced braces in translation" := by
    decide
  have hentry (key : String) : "error: " ++ EntryFinding.message ⟨key, .unpairedBraces⟩ =
      "error: " ++ quoted key ++ ": Unbalanced braces in translation" := by
    rw [EntryFinding.message, String.append_assoc, hfinding, String.append_assoc]
  have hstart : "Error: " ++ "Catalog for " = "Error: Catalog for " := by decide
  have hcount : "Error: " ++ (Failure.invalidEntries language keys.length).message =
      "Error: Catalog for " ++ language ++ " has " ++ toString keys.length ++
        " invalid entries" := by
    simp only [Failure.message, ← String.append_assoc, hstart]
  unfold checkOutcome checkText
  by_cases hkeys : keys = []
  · rw [if_pos hkeys, hkeys]
    rfl
  · rw [if_neg (by simpa using hkeys), if_neg hkeys]
    simp only [fail, List.length_map, hcount, List.map_map, Function.comp_def, hentry]

theorem Checks.exitCode_run
    (h : Checks filterVariable arguments environment tree language catalog) :
    (run filterVariable arguments environment tree).exitCode =
      if catalog.spoiltKeys = [] then 0 else 1 := by
  obtain ⟨complaints, notes, hrun⟩ := h.exists_run
  rw [hrun]
  refine (exitCode_checkOutcome catalog.errors).trans ?_
  simp only [catalog.errors_eq_map_spoiltKeys, List.map_eq_nil_iff]

theorem Checks.exitCode_run_eq_one_iff
    (h : Checks filterVariable arguments environment tree language catalog) :
    (run filterVariable arguments environment tree).exitCode = 1 ↔
      ∃ key, catalog.IsSpoilt key := by
  have hkeys : catalog.spoiltKeys ≠ [] ↔ ∃ key, catalog.IsSpoilt key := by
    simp only [← catalog.enumerates_spoiltKeys.mem_iff]
    exact ⟨List.exists_mem_of_ne_nil _, fun ⟨key, hkey⟩ => List.ne_nil_of_mem hkey⟩
  rw [h.exitCode_run, ← hkeys]
  by_cases hnil : catalog.spoiltKeys = [] <;> simp [hnil]

theorem Checks.errors_run
    (h : Checks filterVariable arguments environment tree language catalog) :
    (run filterVariable arguments environment tree).errors =
      checkText language catalog.spoiltKeys := by
  obtain ⟨complaints, notes, hrun⟩ := h.exists_run
  rw [hrun, catalog.errors_eq_map_spoiltKeys]
  exact errors_checkOutcome catalog.spoiltKeys

/-- The validation and the renderer agree on the braces of a text: those pair up exactly if removing
the fragments leaves none, if the text is made of fragments and pieces without braces, and if no
brace is stray. So a stray brace is what a check looks for in the texts of a catalog. -/
theorem check_tells_stray_braces :
    (∀ text, (bracesPairUp false text.toList = true ↔
        BraceFree (replaceFragments (fun _ => "") text)) ∧
      (bracesPairUp false text.toList = true ↔ Tiled text) ∧
      (bracesPairUp false text.toList = true ↔ ¬ HasStrayBrace text)) ∧
    ∀ catalog : Catalog, ∃ keys, Enumerates keys catalog.IsSpoilt ∧
      catalog.errors = keys.map (⟨·, .unpairedBraces⟩) ∧
      (∀ entry ∈ catalog.errors ++ catalog.warnings,
        ∃ text, catalog[entry.key]? = some text ∧ text ≠ "") ∧
      (∀ error ∈ catalog.errors, ∀ warning ∈ catalog.warnings, error.key ≠ warning.key) ∧
      ∀ filterVariable arguments environment tree language,
        Checks filterVariable arguments environment tree language catalog →
        (run filterVariable arguments environment tree).exitCode = (if keys = [] then 0 else 1) ∧
        ((run filterVariable arguments environment tree).exitCode = 1 ↔
          ∃ key, catalog.IsSpoilt key) ∧
        (run filterVariable arguments environment tree).errors = checkText language keys := by
  refine ⟨fun text => ?_, fun catalog => ?_⟩
  · rw [braceFree_replaceFragments_iff, tiled_iff, bracesPairUp_iff_not_hasStrayBrace]
    exact ⟨.rfl, .rfl, .rfl⟩
  · refine ⟨catalog.spoiltKeys, catalog.enumerates_spoiltKeys, catalog.errors_eq_map_spoiltKeys,
      fun entry hentry => ?_, fun error herror warning => catalog.key_ne_of_error_of_warning herror,
      fun filterVariable arguments environment tree language hchecks => ?_⟩
    · have hmem : entry ∈ catalog.findings :=
        (List.mem_append.1 hentry).elim List.mem_of_mem_filter List.mem_of_mem_filter
      obtain ⟨text, htext, hne, -⟩ := Catalog.exists_text_of_mem_findings hmem
      exact ⟨text, htext, hne⟩
    · exact ⟨hchecks.exitCode_run, hchecks.exitCode_run_eq_one_iff, hchecks.errors_run⟩

def checkGerman : List String :=
  ["--language", "de", "check"]

/-- One entry has no text yet, one has a text with stray braces, one has a doubled pair of braces,
and one shows a value that its key does not have. -/
def strayFiles : FileTree where
  entries := .ofList [([".", "de.json"], Entry.text ("\x7b\"Bye\": \"\", \"Yes\": \"\x7dJa\x7b\"," ++
    " \"No\": \"" ++ braced (braced "n") ++ "\", \"Hello\": \"" ++ braced "name" ++ "\"\x7d"))]

theorem check_tells_stray_braces_german :
    ∃ catalog, Checks "RUST_LOG" checkGerman ∅ strayFiles "de" catalog ∧
      catalog.IsSpoilt "Yes" ∧ (run "RUST_LOG" checkGerman ∅ strayFiles).exitCode = 1 ∧
      ∃ error ∈ catalog.errors, ∃ warning ∈ catalog.warnings,
        error.key = "No" ∧ warning.key = "Hello" ∧ error.key ≠ warning.key ∧
        ∃ text, catalog[error.key]? = some text ∧ text ≠ "" := by
  have hgiven : (allVariables? ∅ strayFiles).map (fun given =>
      ((NoteFilter.ofText (given["RUST_LOG"]?.getD "")).2,
        (Settings.ofVariables (given[·]?)).languageFolder)) = some (true, "./") := by
    decide +kernel
  obtain ⟨given, hgiven, hread⟩ := Option.map_eq_some_iff.1 hgiven
  obtain ⟨hfilter, hfolder⟩ := Prod.mk.inj hread
  have hparse : parse checkGerman =
      .ok { language := some "de", folder := none, action := .check } := by
    with_unfolding_all rfl
  have hfindings : (do
      let catalog ← Catalog.load strayFiles "./" "de"
      return (catalog["Yes"]?, catalog.errors, catalog.warnings)) =
        .ok (some "\x7dJa\x7b", [⟨"No", .unpairedBraces⟩, ⟨"Yes", .unpairedBraces⟩],
          [⟨"Hello", .unknownNames ["name"]⟩]) := by
    decide +kernel
  obtain ⟨catalog, hload, hfindings⟩ := exists_of_bind_eq_ok hfindings
  obtain ⟨hyes, hfindings⟩ := Prod.mk.inj (Except.ok.inj hfindings)
  obtain ⟨herrors, hwarnings⟩ := Prod.mk.inj hfindings
  have herror : ⟨"No", .unpairedBraces⟩ ∈ catalog.errors := by simp [herrors]
  have hwarning : ⟨"Hello", .unknownNames ["name"]⟩ ∈ catalog.warnings := by simp [hwarnings]
  have hstored : Catalog.Stored strayFiles
      ((none : Option String).getD (Settings.ofVariables (given[·]?)).languageFolder) "de"
      (.ok catalog) := by
    rw [Option.getD_none, hfolder]
    exact Catalog.stored_iff.2 hload
  have hchecks : Checks "RUST_LOG" checkGerman ∅ strayFiles "de" catalog :=
    .intro hgiven hfilter rfl hparse rfl rfl hstored
  have hspoilt : catalog.IsSpoilt "Yes" := ⟨_, hyes, by decide, by decide⟩
  obtain ⟨keys, -, -, htext, hkeys, hrun⟩ := check_tells_stray_braces.2 catalog
  exact ⟨catalog, hchecks, hspoilt, (hrun _ _ _ _ _ hchecks).2.1.2 ⟨_, hspoilt⟩, _, herror, _,
    hwarning, rfl, rfl, hkeys _ herror _ hwarning,
    htext _ (List.mem_append_left _ herror)⟩

end Phrasebook.CommandLine
