import Phrasebook.Catalog.Basic
import Phrasebook.Text.Quoted
import Phrasebook.Text.Reserved
import Phrasebook.Text.Sorted

/-!
Validation of translated texts. Braces have to pair up, and a text should put in exactly the values
that its key has placeholders for.
-/
namespace Phrasebook

inductive Finding where
  | unpairedBraces
  /-- Names that the text puts in and the key does not have. -/
  | unknownNames (names : List String)
  /-- Names that the key has and the text does not put in. -/
  | unusedNames (names : List String)
  deriving DecidableEq

namespace Finding

def message : Finding → String
  | unpairedBraces => "Unbalanced braces in translation"
  | unknownNames names =>
    "Translation inserts values the key does not provide: " ++ quotedList names
  | unusedNames names =>
    "Translation never inserts placeholders of the key: " ++ quotedList names

/-- Only unpaired braces spoil the rendering. -/
def isError : Finding → Bool
  | unpairedBraces => true
  | _ => false

end Finding

/-- Whether opening and closing braces alternate, from the given state to a closed one. -/
def bracesPairUp (isOpen : Bool) : List Char → Bool
  | [] => !isOpen
  | '{' :: rest => !isOpen && bracesPairUp true rest
  | '}' :: rest => isOpen && bracesPairUp false rest
  | _ :: rest => bracesPairUp isOpen rest

def tagName? (word : String) : Option String :=
  (nestedApplication? word.toList).map fun (_, _, name) => name

def bareName? (word : String) : Option String :=
  if word ≠ "" ∧ isPlain word then some word else none

def keyNames (text : String) : List String :=
  sortedDistinct ((fragments text).filterMap tagName?)

def textNames (text : String) : List String :=
  sortedDistinct ((fragments text).filterMap bareName? ++ keyNames text)

/-- The findings on the text for a key. Names are compared only if the braces pair up. -/
def validate (key text : String) : List Finding :=
  if bracesPairUp false text.toList then
    let unknown := (textNames text).filter (!(keyNames key).contains ·)
    let unused := (keyNames key).filter (!(textNames text).contains ·)
    (if unknown.isEmpty then [] else [.unknownNames unknown]) ++
      if unused.isEmpty then [] else [.unusedNames unused]
  else [.unpairedBraces]

structure EntryFinding where
  key : String
  finding : Finding
  deriving DecidableEq

def EntryFinding.message (entry : EntryFinding) : String :=
  quoted entry.key ++ ": " ++ entry.finding.message

namespace Catalog

def findings (catalog : Catalog) : List EntryFinding :=
  (catalog.toList.filter (·.2 != "")).flatMap fun (key, text) =>
    (validate key text).map fun finding => { key, finding }

def errors (catalog : Catalog) : List EntryFinding :=
  catalog.findings.filter (·.finding.isError)

def warnings (catalog : Catalog) : List EntryFinding :=
  catalog.findings.filter (!·.finding.isError)

end Catalog

end Phrasebook
