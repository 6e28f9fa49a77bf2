import Std.Data.ExtTreeMap

/-!
Files and directories, as far as they are known; there are no links. A location is the list of names
from the root down. The working directory has its place in the tree, so one location may be met by
paths that start there, by paths that go up from there, and by paths that start at the root.
-/
namespace Phrasebook

-- The instance of the core library, also where another one is known.
local instance (priority := 2000) decEqByteArray : DecidableEq ByteArray :=
  ByteArray.instDecidableEq

abbrev Location := List String

inductive Entry where
  | text (content : String)
  /-- A file that cannot be read, or whose bytes are no text. -/
  | binary (bytes : ByteArray)
  | directory
  deriving DecidableEq

def Entry.text? : Entry → Option String
  | .text content => some content
  | _ => none

def Entry.ofBytes (bytes : ByteArray) : Entry :=
  match String.fromUTF8? bytes with
  | some content => .text content
  | none => .binary bytes

def Entry.isFile : Entry → Bool
  | .directory => false
  | _ => true

/-- The working directory and those above it are there whether or not they have an entry. As long
as nothing is known of its place, the working directory has a name of its own below the root. -/
structure FileTree where
  workingDirectory : Location := ["."]
  entries : Std.ExtTreeMap Location Entry := ∅

def splitAtEach (mark : Char) : List Char → List (List Char)
  | [] => [[]]
  | char :: rest =>
    match splitAtEach mark rest with
    | [] => [[]]
    | part :: parts => if char = mark then [] :: part :: parts else (char :: part) :: parts

namespace Location

/-- The root lies in itself. -/
def parent (location : Location) : Location :=
  location.dropLast

/-- A location and those above it, the root last. -/
def upward (location : Location) : List Location :=
  (List.range (location.length + 1)).reverse.map location.take

def isName (name : String) : Bool :=
  name ≠ "" && name ≠ "." && name ≠ ".." && name.toList.all (· ≠ '\x00') &&
    name.utf8ByteSize ≤ 255

/-- Whether a path can lead anywhere: it has at most 4095 bytes and no NUL among them. -/
def isPath (path : String) : Bool :=
  path.utf8ByteSize < 4096 && path.toList.all (· ≠ '\x00')

def ofPath (workingDirectory : Location) (path : String) : Location × List String :=
  match path.toList with
  | '/' :: rest => ([], (splitAtEach '/' rest).map String.ofList)
  | chars => (workingDirectory, (splitAtEach '/' chars).map String.ofList)

def path (location : Location) : String :=
  "/" ++ "/".intercalate location

end Location

/-- A path behind a folder; an absolute path stands for itself. -/
def joinPath (folder path : String) : String :=
  if path.startsWith "/" || folder == "" then path
  else if folder.endsWith "/" then folder ++ path
  else folder ++ "/" ++ path

namespace FileTree

def entry? (tree : FileTree) (location : Location) : Option Entry :=
  if location <+: tree.workingDirectory then some .directory else tree.entries[location]?

def insert (tree : FileTree) (location : Location) (entry : Entry) : FileTree :=
  { tree with entries := tree.entries.insert location entry }

@[simp] theorem workingDirectory_insert (tree : FileTree) (location : Location) (entry : Entry) :
    (tree.insert location entry).workingDirectory = tree.workingDirectory :=
  rfl

theorem getElem?_entries_insert (tree : FileTree) (location other : Location) (entry : Entry) :
    (tree.insert location entry).entries[other]? =
      if other = location then some entry else tree.entries[other]? := by
  by_cases hother : other = location
  · simp [insert, hother]
  · have hne : location ≠ other := fun heq => hother heq.symm
    simp [insert, hother, Std.ExtTreeMap.getElem?_insert, hne]

/-- The tree with an entry for each directory that is there without one. -/
def filled (tree : FileTree) : FileTree :=
  tree.workingDirectory.upward.foldl (·.insert · .directory) tree

def step (tree : FileTree) (location : Location) (name : String) : Option Location :=
  if tree.entry? location = some .directory then
    if name = "" ∨ name = "." then some location
    else if name = ".." then some location.parent
    else (tree.entry? (location ++ [name])).map fun _ => location ++ [name]
  else none

/-- The location that a path leads to, if there is something. The empty path leads nowhere. -/
def locate (tree : FileTree) (path : String) : Option Location :=
  if path ≠ "" ∧ Location.isPath path then
    let (start, names) := Location.ofPath tree.workingDirectory path
    names.foldlM tree.step start
  else none

def find? (tree : FileTree) (path : String) : Option Entry :=
  tree.locate path >>= tree.entry?

def contains (tree : FileTree) (path : String) : Bool :=
  (tree.locate path).isSome

def read? (tree : FileTree) (path : String) : Option String :=
  tree.find? path >>= Entry.text?

def file? (tree : FileTree) (location : Location) : Option Entry :=
  (tree.entry? location).filter Entry.isFile

/-- The file of a name in the working directory, or else in the nearest directory above that has
one. The search goes by the paths from the root, of which the first one may be too long. -/
def nearestFile? (tree : FileTree) (name : String) : Option Entry :=
  if Location.isPath (Location.path (tree.workingDirectory ++ [name])) then
    tree.workingDirectory.upward.findSome? fun directory => tree.file? (directory ++ [name])
  else none

/-- What is at a location and below it, in order of the locations. Each comes with the path to it
that goes on from the given path to the location. -/
def below (tree : FileTree) (path : String) (location : Location) : List (String × Entry) :=
  tree.filled.entries.toList.filterMap fun (other, entry) =>
    if location.isPrefixOf other then
      some ((other.drop location.length).foldl joinPath path, entry)
    else none

def makeAlong (tree : FileTree) (location : Location) :
    List String → FileTree × Option Location
  | [] => (tree, some location)
  | name :: names =>
    if name = "" ∨ name = "." then makeAlong tree location names
    else if name = ".." then makeAlong tree location.parent names
    else
      match tree.entry? (location ++ [name]) with
      | some .directory => makeAlong tree (location ++ [name]) names
      | some _ => (tree, none)
      | none =>
        if Location.isName name then
          makeAlong (tree.insert (location ++ [name]) .directory) (location ++ [name]) names
        else (tree, none)

def endsInDot (names : List String) : Bool :=
  (names.reverse.dropWhile (· = "")).head? == some "."

/-- Make sure that there is a directory at a path; `none` if that is not possible. A dot cannot be
made, so a path that ends in one asks for a directory that is there already; only those above it are
made. -/
def makeDirectories (tree : FileTree) (path : String) : FileTree × Option Location :=
  if Location.isPath path then
    let (start, names) := Location.ofPath tree.workingDirectory path
    if endsInDot names then
      let steps := names.filter fun name => name ≠ "" ∧ name ≠ "."
      match tree.makeAlong start steps.dropLast with
      | (tree, none) => (tree, none)
      | (tree, some location) =>
        let found := (steps.drop (steps.length - 1)).foldlM tree.step location
        (tree, found.filter fun location => tree.entry? location = some .directory)
    else tree.makeAlong start names
  else (tree, none)

def put? (tree : FileTree) (location : Location) (name : String) (entry : Entry) :
    Option FileTree :=
  if tree.entry? location = some .directory ∧ Location.isName name ∧
      tree.entry? (location ++ [name]) ≠ some .directory then
    some (tree.insert (location ++ [name]) entry)
  else none

def write? (tree : FileTree) (path content : String) : Option FileTree :=
  if Location.isPath path then do
    let (start, names) := Location.ofPath tree.workingDirectory path
    let location ← names.dropLast.foldlM tree.step start
    tree.put? location (names.getLast?.getD "") (.text content)
  else none

def place? (tree : FileTree) (path : String) : Entry → Option FileTree
  | .directory =>
    match tree.makeDirectories path with
    | (tree, some _) => some tree
    | (_, none) => none
  | entry =>
    let (start, names) := Location.ofPath tree.workingDirectory path
    match tree.makeAlong start names.dropLast with
    | (tree, some location) => tree.put? location (names.getLast?.getD "") entry
    | (_, none) => none

end FileTree

end Phrasebook
