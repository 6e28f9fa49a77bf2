import Phrasebook.FileTree.Basic
import Phrasebook.Registry.Basic

/-!
Catalog folders. The catalog of a language is the file `<code>.json` of a folder; a language
without such a file has an empty catalog.
-/
namespace Phrasebook

inductive FileError where
  | unreadableCatalog (path : String)
  | unparsableCatalog (path : String)
  | uncreatableFolder (path : String)
  | unwritableCatalog (path : String)
  | unreachable (path : String)
  | language (error : Error)
  deriving DecidableEq

namespace FileError

def message : FileError → String
  | unreadableCatalog path => "Failed to read catalog " ++ path
  | unparsableCatalog path => "Failed to parse catalog " ++ path
  | uncreatableFolder path => "Failed to create catalog folder " ++ path
  | unwritableCatalog path => "Failed to write catalog " ++ path
  | unreachable path => "Failed to stat " ++ path
  | language error => error.message

end FileError

namespace Catalog

def path (folder code : String) : String :=
  joinPath folder (code ++ ".json")

def load (tree : FileTree) (folder code : String) : Except FileError Catalog :=
  let path := path folder code
  if tree.contains path then
    match tree.read? path with
    | none => .error (.unreadableCatalog path)
    | some content =>
      match ofText? content with
      | some catalog => .ok catalog
      | none => .error (.unparsableCatalog path)
  else .ok ∅

def save (tree : FileTree) (folder code : String) (catalog : Catalog) :
    FileTree × Except FileError String :=
  match tree.makeDirectories folder with
  | (tree, none) => (tree, .error (.uncreatableFolder folder))
  | (tree, some _) =>
    let path := path folder code
    match tree.write? path catalog.fileText with
    | some tree => (tree, .ok path)
    | none => (tree, .error (.unwritableCatalog path))

end Catalog

namespace Registry

def loadEach (tree : FileTree) (folder : String) (loaded : Nat) :
    Registry → List String → Except FileError Nat × Registry
  | registry, [] => (.ok loaded, registry)
  | registry, code :: codes =>
    match Catalog.load tree folder code with
    | .error error => (.error error, registry)
    | .ok catalog =>
      match registry.updateTranslations code catalog.toList with
      | .error error => (.error (.language error), registry)
      | .ok registry => loadEach tree folder (loaded + catalog.size) registry codes

def loadChain (registry : Registry) (tree : FileTree) (folder code : String) :
    Except FileError Nat × Registry :=
  match registry.fallbackChain code with
  | .error error => (.error (.language error), registry)
  | .ok codes => loadEach tree folder 0 registry codes

end Registry

end Phrasebook
