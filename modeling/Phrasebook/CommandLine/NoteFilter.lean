import Phrasebook.CommandLine.NoteRule
import Phrasebook.FileTree.Basic

/-!
Which notes are shown. A filter is a list of rules with commas between them, of which the most
precise one that speaks of a note decides. A rule that cannot be read is left out, with a complaint.
-/
namespace Phrasebook.CommandLine

structure NoteFilter where
  rules : List NoteRule := []
  complaints : List String := []

namespace NoteFilter

def readRules (filter : NoteFilter) : List String → NoteFilter × Bool
  | [] => (filter, true)
  | text :: texts =>
    match NoteRule.read text with
    | .ok rule => readRules { filter with rules := filter.rules ++ rule.toList } texts
    | .error .insideCharacter => (filter, false)
    | .error fault =>
      let complaint := "ignoring `" ++ text ++ "`: " ++ fault.message
      readRules { filter with complaints := filter.complaints ++ [complaint] } texts

/-- The filter of a text, and whether all of its rules are read. The rule for all parts of this
program always stands, so only a more precise rule can change what they show. -/
def ofText (text : String) : NoteFilter × Bool :=
  let texts := ((splitAtEach ',' text.toList).map String.ofList).filter (· ≠ "")
  let (filter, complete) := readRules {} texts
  let standing := { part := "translatables", field := none, depth := NoteLevel.progress.depth }
  ({ filter with rules := filter.rules ++ [standing] }, complete)

/-- The rule that decides on a note. Of two rules of the same precision the later one counts. -/
def rule? (filter : NoteFilter) (note : Note) : Option NoteRule :=
  (filter.rules.filter (·.covers note)).foldl (fun best rule =>
    match best with
    | some other => if rule.precision < other.precision then some other else some rule
    | none => some rule) none

def shows (filter : NoteFilter) (note : Note) : Bool :=
  match filter.rule? note with
  | some rule => note.level.depth ≤ rule.depth
  | none => false

end NoteFilter

end Phrasebook.CommandLine
