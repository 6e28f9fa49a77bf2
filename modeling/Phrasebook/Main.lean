import Phrasebook.CommandLine.Run

/-!
The program: it looks at the files that a run can depend on, runs the command, and writes what the
command changed.
-/
namespace Phrasebook.Main

open CommandLine

/-- What is at a path, if there is something. A directory can be opened but not read; a file that
cannot be opened is as good as one without text. -/
def entryAt? (path : String) : IO (Option Entry) := do
  match ← (IO.FS.Handle.mk path .read).toBaseIO with
  | .error (.noFileOrDirectory ..) | .error (.inappropriateType ..) => return none
  | .error _ => return some (.binary .empty)
  | .ok handle =>
    match ← handle.readBinToEnd.toBaseIO with
    | .error _ => return some .directory
    | .ok bytes => return some (.ofBytes bytes)

def look (tree : FileTree) (path : String) : IO FileTree := do
  match ← entryAt? path with
  | some entry => return (tree.place? path entry).getD tree
  | none => return tree

/-- A path and the shorter ones that lead to it. -/
def fronts (path : String) : List String :=
  let slashes := (List.range path.length).filter fun length => path.toList[length]? = some '/'
  slashes.map (fun length => String.ofList (path.toList.take length)) ++ [path]

partial def lookBelow (tree : FileTree) (path : String) : IO FileTree := do
  let tree ← look tree path
  if tree.find? path = some .directory then
    let entries ← (← IO.FS.realPath path).readDir
    entries.foldlM (fun tree entry => lookBelow tree (joinPath path entry.fileName)) tree
  else return tree

def filterVariable : String :=
  "RUST_LOG"

def readEnvironment (tree : FileTree) : IO Variables :=
  let names := VariableFile.mentionedNames (variableText tree)
  (filterVariable :: Settings.variableNames ++ names).foldlM (fun environment name => do
    match ← IO.getEnv name with
    | some value => return environment.insert name value
    | none => return environment) ∅

def lookUpward (tree : FileTree) : IO FileTree :=
  tree.workingDirectory.upward.foldlM
    (fun tree directory => look tree (Location.path (directory ++ [".env"]))) tree

def lookAround (arguments : List String) (environment : Variables) (tree : FileTree) :
    IO FileTree := do
  match allVariables? environment tree, parse arguments with
  | some environment, .ok invocation =>
    let settings := Settings.ofVariables (environment[·]?)
    let tree ← ((invocation.paths settings).flatMap fronts).foldlM look tree
    match invocation.codebase? with
    | some codebase => lookBelow tree codebase
    | none => return tree
  | _, _ => return tree

def writeChanges (before after : FileTree) : IO Unit := do
  for (location, entry) in after.entries.toList do
    if before.entry? location ≠ some entry then
      match entry with
      | .directory => IO.FS.createDirAll location.path
      | .text content => IO.FS.writeFile location.path content
      | .binary _ => pure ()

end Phrasebook.Main

open Phrasebook in
def main (arguments : List String) : IO UInt32 := do
  let (_, names) := Location.ofPath [] (← IO.currentDir).toString
  let tree ← Main.lookUpward { workingDirectory := names.filter (· ≠ "") }
  let environment ← Main.readEnvironment tree
  let tree ← Main.lookAround arguments environment tree
  let outcome := CommandLine.run Main.filterVariable arguments environment tree
  Main.writeChanges tree outcome.tree
  IO.print outcome.output
  IO.eprint (outcome.errorText "note: ")
  return outcome.exitCode.toUInt32
