import Phrasebook.Proofs.CommandLine.Reextraction

/-!
What a run does to the files. Only extraction changes one, which is the catalog of its language,
and only if it succeeds; then the catalog has been brought up to date with what the codebase asks
for (`run_changes_only_catalog`). A run that fails may have made directories, but every file has the
content that it had.
-/
namespace Phrasebook.CommandLine

variable {tree saved : FileTree} {folder language codebase callee output : String}
  {options : ExtractionOptions} {invocation : Invocation} {settings : Settings}

/-- What a successful extraction did: nothing was in its way, it brought the stored catalog up to
date with the patterns of the codebase, and it put the result in the file of the catalog, from which
it is loaded again. -/
structure BringsUpToDate (tree saved : FileTree) (folder language codebase callee : String)
    (options : ExtractionOptions) (known catalog : Catalog) (report : ExtractionReport)
    (target : Location) : Prop where
  contains_language : knownLanguages.contains language = true
  stored : Catalog.Stored tree folder language (.ok known)
  exists_codebase : ∃ root, tree.locate codebase = some root
  exists_folder : ∃ location, (tree.makeDirectories folder).2 = some location
  renews : ∃ sources, Enumerates sources (Source.Occurs tree callee codebase) ∧
    Catalog.Renews knownLanguages language options sources known catalog report
  savedAt : Catalog.SavedAt tree saved folder language catalog target
  stored_saved : Catalog.Stored saved folder language (.ok catalog)

theorem exists_bringsUpToDate
    (h : extract tree folder language codebase callee options = (saved, .ok output)) :
    ∃ known catalog report target, BringsUpToDate tree saved folder language codebase callee options
        known catalog report target ∧ output = lines [report.toJson.prettyText "  "] := by
  obtain ⟨hlanguage, known, sources, hload, hscan, catalog, report, file, hextract, hsave, rfl⟩ :=
    exists_of_extract h
  obtain ⟨-, made, location, hmade, -⟩ := Catalog.exists_of_save hsave
  obtain ⟨target, hsavedAt⟩ := Catalog.exists_savedAt hsave
  have hrenews := Catalog.renews_extract knownLanguages language options sources known
  rw [hextract] at hrenews
  refine ⟨known, catalog, report, target, ?_, rfl⟩
  exact {
    contains_language := hlanguage
    stored := Catalog.stored_iff.2 hload
    exists_codebase := Source.exists_locate_of_scan hscan
    exists_folder := ⟨location, congrArg Prod.snd hmade⟩
    renews := ⟨sources, Source.enumerates_of_scan hscan, hrenews⟩
    savedAt := hsavedAt
    stored_saved := Catalog.stored_iff.2 (Catalog.load_of_save hsave) }

theorem makesDirectories_of_extract_eq_error {failure : Failure}
    (h : extract tree folder language codebase callee options = (saved, .error failure)) :
    tree.MakesDirectories saved := by
  unfold extract at h
  split at h
  · cases h
    exact .refl tree
  · split at h
    · next hsave =>
      cases h
      exact Catalog.makesDirectories_of_save_eq_error hsave
    · cases h

@[simp] theorem tree_checkOutcome (tree : FileTree) (language : String)
    (errors : List EntryFinding) : (checkOutcome tree language errors).tree = tree := by
  unfold checkOutcome
  split <;> rfl

theorem exists_action_of_codebase? (h : invocation.codebase? = some codebase) :
    ∃ callee? options, invocation.action = .extract codebase callee? options := by
  unfold Invocation.codebase? at h
  split at h
  · next callee? options haction =>
    cases h
    exact ⟨callee?, options, haction⟩
  · contradiction

theorem tree_execute (h : invocation.codebase? = none) (settings : Settings) (tree : FileTree) :
    (execute settings tree invocation).tree = tree := by
  unfold execute
  split
  · rfl
  · dsimp only
    split
    · next haction => simp [Invocation.codebase?, haction] at h
    · simp
    · simp
    · dsimp only
      split <;> simp [fail]

theorem makesDirectories_execute (settings : Settings) (tree : FileTree) (invocation : Invocation)
    (h : (execute settings tree invocation).exitCode ≠ 0) :
    tree.MakesDirectories (execute settings tree invocation).tree := by
  cases hcodebase : invocation.codebase? with
  | none =>
    rw [tree_execute hcodebase]
    exact .refl tree
  | some codebase =>
    obtain ⟨callee?, options, haction⟩ := exists_action_of_codebase? hcodebase
    cases hlanguage : invocation.language <|> settings.language with
    | none =>
      unfold execute
      rw [hlanguage]
      exact .refl tree
    | some language =>
      obtain ⟨notes, hexecute⟩ := execute_extract haction hlanguage tree
      rw [hexecute] at h ⊢
      simp only [tree_ofExcept]
      cases hextract : extract tree (invocation.folder.getD settings.languageFolder) language
          codebase (callee?.getD settings.callee) options with
      | mk saved result =>
        rw [hextract] at h
        cases result with
        | ok output => simp [ofExcept, succeed] at h
        | error failure => exact makesDirectories_of_extract_eq_error hextract

section

variable {filterVariable : String} {arguments : List String} {environment : Variables}
  {outcome : Outcome}

theorem run_eq_or (filterVariable : String) (arguments : List String) (environment : Variables)
    (tree : FileTree) :
    ((run filterVariable arguments environment tree).exitCode = 101 ∧
      (run filterVariable arguments environment tree).tree = tree) ∨
    ∃ given complaints notes, allVariables? environment tree = some given ∧
      run filterVariable arguments environment tree =
        { runWith given arguments tree with complaints, notes } := by
  unfold run
  cases hgiven : allVariables? environment tree with
  | none => exact .inl ⟨rfl, rfl⟩
  | some given =>
    dsimp only
    split
    · exact .inl ⟨rfl, rfl⟩
    · exact .inr ⟨given, _, _, rfl, rfl⟩

theorem tree_runWith (h : ∀ invocation, parse arguments = .ok invocation →
    invocation.codebase? = none) (given : Variables) (tree : FileTree) :
    (runWith given arguments tree).tree = tree := by
  unfold runWith
  split
  · rfl
  · rfl
  · rfl
  · next invocation hparse => exact tree_execute (h invocation hparse) _ tree

theorem makesDirectories_runWith (given : Variables) (arguments : List String) (tree : FileTree)
    (h : (runWith given arguments tree).exitCode ≠ 0) :
    tree.MakesDirectories (runWith given arguments tree).tree := by
  unfold runWith at h ⊢
  split
  · exact .refl tree
  · exact .refl tree
  · exact .refl tree
  · next invocation hparse =>
    rw [hparse] at h
    exact makesDirectories_execute _ tree invocation h

theorem exists_bringsUpToDate_of_execute {callee? : Option String}
    (haction : invocation.action = .extract codebase callee? options)
    (hsuccess : (execute settings tree invocation).exitCode = 0) :
    ∃ language known catalog report target,
      (invocation.language <|> settings.language) = some language ∧
      BringsUpToDate tree (execute settings tree invocation).tree
        (invocation.folder.getD settings.languageFolder) language codebase
        (callee?.getD settings.callee) options known catalog report target ∧
      (execute settings tree invocation).output = lines [report.toJson.prettyText "  "] := by
  cases hlanguage : invocation.language <|> settings.language with
  | none =>
    unfold execute at hsuccess
    rw [hlanguage] at hsuccess
    contradiction
  | some language =>
    obtain ⟨notes, hexecute⟩ := execute_extract haction hlanguage tree
    rw [hexecute] at hsuccess ⊢
    obtain ⟨output, houtput⟩ := exists_of_exitCode hsuccess
    obtain ⟨known, catalog, report, target, hbrings, rfl⟩ :=
      exists_bringsUpToDate (Prod.ext rfl houtput)
    refine ⟨language, known, catalog, report, target, rfl, ?_, ?_⟩
    · rw [tree_ofExcept]
      exact hbrings
    · rw [houtput]
      rfl

theorem run_changes_only_catalog
    (hrun : run filterVariable arguments environment tree = outcome) :
    (outcome.exitCode ≠ 0 → tree.MakesDirectories outcome.tree) ∧
    ((∀ invocation, parse arguments = .ok invocation → invocation.codebase? = none) →
      outcome.tree = tree) ∧
    (parse arguments = .error .usage → outcome.exitCode ≠ 0) ∧
    ∀ invocation codebase callee? options, parse arguments = .ok invocation →
      invocation.action = .extract codebase callee? options → outcome.exitCode = 0 →
      ∃ given settings language known catalog report target,
        allVariables? environment tree = some given ∧
        settings = Settings.ofVariables (given[·]?) ∧
        (invocation.language <|> settings.language) = some language ∧
        BringsUpToDate tree outcome.tree (invocation.folder.getD settings.languageFolder) language
          codebase (callee?.getD settings.callee) options known catalog report target ∧
        outcome.output = lines [report.toJson.prettyText "  "] := by
  subst hrun
  rcases run_eq_or filterVariable arguments environment tree with
    ⟨hcode, htree⟩ | ⟨given, complaints, notes, hgiven, hrun⟩
  · rw [hcode, htree]
    exact ⟨fun _ => .refl tree, fun _ => rfl, fun _ => by decide, fun _ _ _ _ _ _ h => by
      contradiction⟩
  · rw [hrun]
    refine ⟨makesDirectories_runWith given arguments tree, fun h => tree_runWith h given tree,
      fun hparse => ?_, fun invocation codebase callee? options hparse haction hsuccess => ?_⟩
    · simp [runWith, hparse]
    · have hexecute : runWith given arguments tree =
          execute (.ofVariables (given[·]?)) tree invocation := by
        rw [runWith, hparse]
      simp only [hexecute] at hsuccess ⊢
      obtain ⟨language, known, catalog, report, target, hlanguage, hbrings, houtput⟩ :=
        exists_bringsUpToDate_of_execute haction hsuccess
      exact ⟨given, _, language, known, catalog, report, target, hgiven, rfl, hlanguage, hbrings,
        houtput⟩

end

/-- A catalog that ends too early stands where the new one would be put. -/
def spoiltFiles : FileTree where
  entries := .ofList [
    ([".", "app.js"], Entry.text "t('Hello {name}')"),
    ([".", "de.json"], Entry.text "\x7b")]

def printKeys : List String :=
  ["--language", "de", "keys", "Hello {name}"]

theorem run_changes_only_catalog_greeting :
    ∃ updated spoilt printed, run "RUST_LOG" extractHere ∅ greetingFiles = updated ∧
      run "RUST_LOG" extractHere ∅ spoiltFiles = spoilt ∧
      run "RUST_LOG" printKeys ∅ greetingFiles = printed ∧
      updated.exitCode = 0 ∧
      updated.tree.entry? ["home", "app.js"] = some (.text "t('Hello {name}')") ∧
      (∃ folder catalog target,
        Catalog.SavedAt greetingFiles updated.tree folder "de" catalog target ∧
        Catalog.Stored updated.tree folder "de" (.ok catalog)) ∧
      spoilt.exitCode = 1 ∧ spoiltFiles.MakesDirectories spoilt.tree ∧
      printed.exitCode = 0 ∧ printed.tree = greetingFiles := by
  have hparse : parse extractHere =
      .ok { language := some "de", folder := none, action := .extract "." none {} } := by
    with_unfolding_all rfl
  have hparse' : parse printKeys =
      .ok { language := some "de", folder := none, action := .keys "Hello {name}" } := by
    with_unfolding_all rfl
  have hcodes : ∃ updated spoilt printed, run "RUST_LOG" extractHere ∅ greetingFiles = updated ∧
      run "RUST_LOG" extractHere ∅ spoiltFiles = spoilt ∧
      run "RUST_LOG" printKeys ∅ greetingFiles = printed ∧
      updated.exitCode = 0 ∧ spoilt.exitCode = 1 ∧ printed.exitCode = 0 :=
    ⟨_, _, _, rfl, rfl, rfl, by decide +kernel⟩
  obtain ⟨updated, spoilt, printed, hupdated, hspoilt, hprinted, hsuccess, hfailure,
    hsuccess'⟩ := hcodes
  obtain ⟨-, -, -, hbrings⟩ := run_changes_only_catalog hupdated
  obtain ⟨_, _, language, _, catalog, _, target, -, -, hlanguage, hbrings, -⟩ :=
    hbrings _ _ _ _ hparse rfl hsuccess
  obtain rfl : "de" = language := Option.some.inj hlanguage
  obtain ⟨hdirectories, -⟩ := run_changes_only_catalog hspoilt
  obtain ⟨-, hunchanged, -⟩ := run_changes_only_catalog hprinted
  refine ⟨updated, spoilt, printed, hupdated, hspoilt, hprinted, hsuccess, ?_,
    ⟨_, catalog, target, hbrings.savedAt, hbrings.stored_saved⟩, hfailure, hdirectories (by rw [hfailure]; decide),
    hsuccess', hunchanged fun invocation hinvocation => ?_⟩
  · have hother : ["home", "app.js"] ≠ target :=
      (hbrings.savedAt.ne_of_not_suffix (by decide) : ["home"] ++ ["app.js"] ≠ target)
    exact (hbrings.savedAt.text_iff hother).2 (by decide)
  · rw [hparse'] at hinvocation
    cases hinvocation
    rfl

end Phrasebook.CommandLine
