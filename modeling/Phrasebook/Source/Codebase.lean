import Phrasebook.Catalog.Extraction
import Phrasebook.Catalog.Folder
import Phrasebook.Source.Call
import Phrasebook.Text.Sorted

/-!
Source patterns of a codebase: one program text, or all below a directory. Files that hold no text
are passed over.
-/
namespace Phrasebook.Source

def patternsOf (callee : String) (texts : List String) : List String :=
  sortedDistinct (texts.flatMap (patterns callee))

/-- The patterns at a path. Below a directory, everything must have a path that leads there. -/
def scan (tree : FileTree) (callee path : String) : Except FileError (List String) :=
  match tree.locate path with
  | none => .error (.unreachable path)
  | some location =>
    let entries := tree.below path location
    match entries.find? fun (path, _) => !Location.isPath path with
    | some (path, _) => .error (.unreachable path)
    | none => .ok (patternsOf callee (entries.filterMap fun (_, entry) => entry.text?))

def visited (tree : FileTree) (path : String) : List (String × Entry) :=
  match tree.locate path with
  | none => []
  | some location => (tree.below path location).takeWhile fun (path, _) => Location.isPath path

def extract (tree : FileTree) (callee path : String) (languages : Languages) (code : String)
    (options : ExtractionOptions) (catalog : Catalog) :
    Except FileError (Catalog × ExtractionReport) :=
  return catalog.extract languages code options (← scan tree callee path)

end Phrasebook.Source
