import Phrasebook.Registry.Basic
import Phrasebook.Source.Codebase
import Phrasebook.Text.Quoted

/-!
Notes on the progress of a command, for the error stream. A note quotes names and messages as they
are, so it may extend over several lines, of which only the first has a stamp in front. What
rendering and checking note by themselves always fits on one line and is left out.
-/
namespace Phrasebook.CommandLine

inductive NoteLevel where
  | error
  | warning
  | progress
  | detail
  | trace
  deriving DecidableEq

def NoteLevel.depth : NoteLevel → Nat
  | error => 1
  | warning => 2
  | progress => 3
  | detail => 4
  | trace => 5

inductive Note where
  | started (language codebase callee : String)
  | absent (path : String)
  | loaded (entries : Nat) (path : String)
  /-- A file that holds no text. -/
  | skipped (path : String)
  | scanned (patterns : Nat) (path : String)
  | found (patterns : Nat) (codebase : String)
  | rejected (pattern : RejectedPattern)
  | derived (report : ExtractionReport)
  | written (entries : Nat) (path : String)

namespace Note

def level : Note → NoteLevel
  | skipped _ | rejected _ => .warning
  | started .. | found .. | derived _ | written .. => .progress
  | absent _ | loaded .. | scanned .. => .detail

/-- The part of the program that writes a note; the command itself has no name. -/
def part : Note → String
  | started .. => ""
  | absent _ | loaded .. | written .. => "translatables::catalog"
  | skipped _ | scanned .. | found .. | rejected _ | derived _ => "translatables::extract"

def message : Note → String
  | started language codebase callee =>
    "Extracting " ++ language ++ " keys from " ++ codebase ++ " (alias: " ++ callee ++ ")"
  | absent path => "No catalog at " ++ path ++ ", starting empty"
  | loaded entries path => "Loaded " ++ toString entries ++ " entries from " ++ path
  | skipped path => "Skipping " ++ path ++ ": stream did not contain valid UTF-8"
  | scanned patterns path => "Found " ++ toString patterns ++ " patterns in " ++ path
  | found patterns codebase =>
    "Found " ++ toString patterns ++ " source patterns in " ++ codebase
  | rejected pattern =>
    "Rejected pattern " ++ quoted pattern.source ++ ": " ++ pattern.error.message
  | derived report =>
    "Derived " ++ toString report.keys ++ " keys: " ++ toString report.added.length ++
      " added, " ++ toString report.discarded.length ++ " discarded, " ++
      toString report.untranslated.length ++ " untranslated"
  | written entries path => "Wrote " ++ toString entries ++ " entries to " ++ path

/-- A character of a note. Those that could steer a terminal are shown by code point. -/
def shownChar (char : Char) : List Char :=
  if char ∈ ['\x07', '\x08', '\x0c', '\x1b', '\x7f'] then
    let digits := hexDigits char.toNat
    '\\' :: 'x' :: (List.replicate (2 - digits.length) '0' ++ digits)
  else if '\x80' ≤ char ∧ char ≤ '\x9f' then ['\\', 'u', '{'] ++ hexDigits char.toNat ++ ['}']
  else [char]

def text (note : Note) : String :=
  String.ofList (note.message.toList.flatMap shownChar)

end Note

def loadNotes (tree : FileTree) (folder language : String) : List Note :=
  let path := Catalog.path folder language
  match Catalog.load tree folder language with
  | .error _ => []
  | .ok catalog => [if tree.contains path then .loaded catalog.size path else .absent path]

def chainNotes (tree : FileTree) (folder language : String) : List Note :=
  match (Registry.standard .passthrough).fallbackChain language with
  | .error _ => []
  | .ok codes =>
    let loaded := codes.map (loadNotes tree folder)
    (loaded.takeWhile (· matches _ :: _)).flatten

def scanNotes (tree : FileTree) (codebase callee : String) : List Note :=
  (Source.visited tree codebase).filterMap fun (path, entry) =>
    match entry with
    | .text content => some (.scanned (Source.patterns callee content).length path)
    | .binary _ => some (.skipped path)
    | .directory => none

def mergeNotes (tree : FileTree) (folder language codebase : String) (languages : Languages)
    (options : ExtractionOptions) (catalog : Catalog) (patterns : List String) : List Note :=
  let (catalog, report) := catalog.extract languages language options patterns
  let saved :=
    match Catalog.save tree folder language catalog with
    | (_, .ok path) => [.written catalog.size path]
    | (_, .error _) => []
  .found patterns.length codebase :: report.rejected.map .rejected ++ .derived report :: saved

def extractionNotes (tree : FileTree) (folder language codebase callee : String)
    (options : ExtractionOptions) : List Note :=
  let languages := (Registry.standard .passthrough).languages
  let rest :=
    if languages.contains language then
      match Catalog.load tree folder language with
      | .error _ => []
      | .ok catalog =>
        let before := loadNotes tree folder language ++ scanNotes tree codebase callee
        match Source.scan tree callee codebase with
        | .error _ => before
        | .ok patterns =>
          before ++ mergeNotes tree folder language codebase languages options catalog patterns
    else []
  .started language codebase callee :: rest

end Phrasebook.CommandLine
