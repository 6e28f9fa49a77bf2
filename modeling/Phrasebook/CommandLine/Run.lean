import Phrasebook.Catalog.Validation
import Phrasebook.CommandLine.Arguments
import Phrasebook.CommandLine.NoteFilter
import Phrasebook.Registry.Rendering
import Phrasebook.Settings.Basic
import Phrasebook.Settings.VariableFile
import Phrasebook.Source.Codebase

/-!
The commands of the command line, as functions of the arguments, the environment and the files.
Only `extract` changes a file. The wording of the help and of usage errors is left out.
-/
namespace Phrasebook.CommandLine

structure Outcome where
  exitCode : Nat
  output : String
  /-- What is said about the filter for notes, one complaint a line. -/
  complaints : List String := []
  notes : List Note := []
  errors : String
  tree : FileTree

inductive Failure where
  | noLanguage
  | language (error : Error)
  | file (error : FileError)
  | valuesNotJson
  | valuesNotObject
  | invalidEntries (code : String) (count : Nat)
  deriving DecidableEq

namespace Failure

def message : Failure → String
  | noLanguage => "No language given. Use --language or set TRANSLATABLES_LANGUAGE"
  | language error => error.message
  | file error => error.message
  | valuesNotJson => "Failed to parse --values as JSON"
  | valuesNotObject => "--values must be a JSON object"
  | invalidEntries code count =>
    "Catalog for " ++ code ++ " has " ++ toString count ++ " invalid entries"

end Failure

def lines (texts : List String) : String :=
  String.join (texts.map (· ++ "\n"))

def Outcome.errorText (outcome : Outcome) (stamp : String) : String :=
  lines outcome.complaints ++ lines (outcome.notes.map (stamp ++ ·.text)) ++ outcome.errors

def liftError {α : Type} : Except Error α → Except Failure α
  | .ok value => .ok value
  | .error error => .error (.language error)

def liftFileError {α : Type} : Except FileError α → Except Failure α
  | .ok value => .ok value
  | .error error => .error (.file error)

def extracted (tree : FileTree) (folder language codebase callee : String)
    (options : ExtractionOptions) : Except Failure (Catalog × ExtractionReport) := do
  let languages := (Registry.standard .passthrough).languages
  if !languages.contains language then throw (.language (.unknownLanguage language))
  let catalog ← liftFileError (Catalog.load tree folder language)
  liftFileError (Source.extract tree callee codebase languages language options catalog)

def extract (tree : FileTree) (folder language codebase callee : String)
    (options : ExtractionOptions) : FileTree × Except Failure String :=
  match extracted tree folder language codebase callee options with
  | .error failure => (tree, .error failure)
  | .ok (catalog, report) =>
    match Catalog.save tree folder language catalog with
    | (tree, .error error) => (tree, .error (.file error))
    | (tree, .ok _) => (tree, .ok (lines [report.toJson.prettyText "  "]))

def keys (language source : String) : Except Failure String := do
  let registry := Registry.standard .passthrough
  return lines (← liftError (registry.translationKeys language source))

/-- A rendered pattern. The catalogs are loaded before the values are looked at. -/
def render (tree : FileTree) (mode : RenderMode) (folder language source values : String) :
    Except Failure String := do
  let (loaded, registry) := (Registry.standard mode).loadChain tree folder language
  let _ ← liftFileError loaded
  match Json.ofText? values with
  | none => throw .valuesNotJson
  | some json =>
    match Values.ofJson? json with
    | none => throw .valuesNotObject
    | some values => return lines [← liftError (registry.render language source values).1]

def check (tree : FileTree) (folder language : String) : Except Failure (List EntryFinding) :=
  return (← liftFileError (Catalog.load tree folder language)).errors

def succeed (tree : FileTree) (output : String) : Outcome :=
  { exitCode := 0, output, errors := "", tree }

/-- Only the outermost message of a failure is told here. The lines on its causes, which the program
writes behind it, are left out. -/
def fail (tree : FileTree) (failure : Failure) : Outcome :=
  { exitCode := 1, output := "", errors := lines ["Error: " ++ failure.message], tree }

def ofExcept (tree : FileTree) : Except Failure String → Outcome
  | .ok output => succeed tree output
  | .error failure => fail tree failure

def checkOutcome (tree : FileTree) (language : String) (errors : List EntryFinding) : Outcome :=
  if errors.isEmpty then succeed tree ""
  else
    let failed := fail tree (.invalidEntries language errors.length)
    { failed with
      errors := lines (errors.map fun error => "error: " ++ error.message) ++ failed.errors }

def execute (settings : Settings) (tree : FileTree) (invocation : Invocation) : Outcome :=
  match invocation.language <|> settings.language with
  | none => fail tree .noLanguage
  | some language =>
    let folder := invocation.folder.getD settings.languageFolder
    match invocation.action with
    | .extract codebase callee options =>
      let callee := callee.getD settings.callee
      let notes := extractionNotes tree folder language codebase callee options
      let (tree, result) := extract tree folder language codebase callee options
      { ofExcept tree result with notes }
    | .keys source => ofExcept tree (keys language source)
    | .render source values strict =>
      let mode := if strict then .strict else settings.renderMode
      { ofExcept tree (render tree mode folder language source values) with
        notes := chainNotes tree folder language }
    | .check =>
      let outcome :=
        match check tree folder language with
        | .error failure => fail tree failure
        | .ok errors => checkOutcome tree language errors
      { outcome with notes := loadNotes tree folder language }

def versionText : String :=
  "translatables 0.1.0\n"

/-- The text of the nearest file `.env`, in the working directory or above it, up to the first line
that is no text. -/
def variableText (tree : FileTree) : String :=
  match tree.nearestFile? ".env" with
  | some (.text content) => content
  | some (.binary bytes) => VariableFile.leadingText bytes
  | _ => ""

def allVariables? (environment : Variables) (tree : FileTree) : Option Variables :=
  VariableFile.load? environment (variableText tree)

def Invocation.paths (settings : Settings) (invocation : Invocation) : List String :=
  match invocation.language <|> settings.language with
  | none => []
  | some language =>
    let folder := invocation.folder.getD settings.languageFolder
    match invocation.action with
    | .extract codebase _ _ => [folder, Catalog.path folder language, codebase]
    | .keys _ => []
    | .render _ _ _ =>
      match (Registry.standard .passthrough).fallbackChain language with
      | .ok codes => codes.map (Catalog.path folder)
      | .error _ => []
    | .check => [Catalog.path folder language]

def Invocation.codebase? (invocation : Invocation) : Option String :=
  match invocation.action with
  | .extract codebase _ _ => some codebase
  | _ => none

def breakOff (tree : FileTree) (errors : String) : Outcome :=
  { exitCode := 101, output := "", errors, tree }

def runWith (environment : Variables) (arguments : List String) (tree : FileTree) : Outcome :=
  match parse arguments with
  | .error .help => succeed tree ""
  | .error .version => succeed tree versionText
  | .error .usage => { exitCode := 2, output := "", errors := "", tree }
  | .ok invocation => execute (Settings.ofVariables (environment[·]?)) tree invocation

/-- What the program does. The variables are read first, then the filter for notes, which is in one
of them, and then the arguments. -/
def run (filterVariable : String) (arguments : List String) (environment : Variables)
    (tree : FileTree) : Outcome :=
  match allVariables? environment tree with
  | none => breakOff tree ""
  | some environment =>
    match NoteFilter.ofText (environment[filterVariable]?.getD "") with
    | (filter, false) =>
      { breakOff tree (lines [RuleFault.insideCharacter.message]) with
        complaints := filter.complaints }
    | (filter, true) =>
      let outcome := runWith environment arguments tree
      { outcome with
        complaints := filter.complaints
        notes := outcome.notes.filter filter.shows }

end Phrasebook.CommandLine
