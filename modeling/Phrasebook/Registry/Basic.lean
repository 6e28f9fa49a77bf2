import Phrasebook.Catalog.Basic
import Phrasebook.Language.Standard
import Phrasebook.Metrics
import Phrasebook.Pattern.Rendering

/-!
The registry: the known languages, a catalog for each, and the counters of renderings. Updates
that fail leave it as it is.
-/
namespace Phrasebook

inductive RenderMode where
  | passthrough
  | strict
  deriving DecidableEq

structure Registry where
  mode : RenderMode := .passthrough
  languages : Languages := ∅
  catalogs : Std.ExtTreeMap String Catalog := ∅
  metrics : Metrics := {}

namespace Registry

/-- Add a language, or replace the one with its code, whose catalog stays. -/
def register (registry : Registry) (language : Language) : Registry :=
  { registry with
    languages := registry.languages.add language
    catalogs := registry.catalogs.insertIfNew language.code ∅ }

def registerStandard (registry : Registry) : Registry :=
  Standard.languages.foldl register registry

def standard (mode : RenderMode) : Registry :=
  registerStandard { mode }

def install (registry : Registry) (language : Language) : Registry :=
  { registry with
    languages := registry.languages.add language
    catalogs := registry.catalogs.insert language.code ∅ }

/-- Back to the languages that come with the library, with nothing translated or counted. The new
state is built apart from the old one and takes its place at once. -/
def reset (registry : Registry) : Registry :=
  Standard.languages.foldl install { mode := registry.mode }

def language? (registry : Registry) (code : String) : Option Language :=
  registry.languages[code]?

def languageCodes (registry : Registry) : List String :=
  registry.languages.keys

def language (registry : Registry) (code : String) : Except Error Language :=
  match registry.language? code with
  | some language => .ok language
  | none => .error (.unknownLanguage code)

def extendLanguage (registry : Registry) (parent code : String) : Except Error Registry :=
  return registry.register ((← registry.language parent).extend code)

def updateDomain (registry : Registry) (code : String) (domain : Domain) :
    Except Error Registry := do
  let language ← registry.language code
  let languages := registry.languages.insert code (language.updateDomain domain)
  return { registry with languages }

def fallbackChain (registry : Registry) (code : String) : Except Error (List String) :=
  return (← registry.languages.chain code).map (·.code)

def catalog? (registry : Registry) (code : String) : Option Catalog :=
  registry.catalogs[code]?

def updateTranslations (registry : Registry) (code : String) (pairs : List (String × String)) :
    Except Error Registry := do
  let _ ← registry.language code
  let catalog := (registry.catalog? code).getD ∅
  return { registry with catalogs := registry.catalogs.insert code (catalog.merge pairs) }

/-- The text for a key in the nearest catalog of the chain that has one. A chain that cannot be
followed has none. -/
def translation? (registry : Registry) (code key : String) : Option String :=
  match registry.languages.chain code with
  | .ok chain => chain.findSome? fun language => do (← registry.catalog? language.code)[key]?
  | .error _ => none

def pattern (registry : Registry) (code source : String) : Except Error Pattern :=
  Pattern.parse registry.languages code source

def translationKeys (registry : Registry) (code source : String) : Except Error (List String) :=
  return (← registry.pattern code source).keys

@[simp] theorem language?_register (registry : Registry) (language : Language) (code : String) :
    (registry.register language).language? code =
      if language.code = code then some language else registry.language? code := by
  simp [register, language?, Languages.add, Std.ExtTreeMap.getElem?_insert]

@[simp] theorem catalog?_register (registry : Registry) (language : Language) (code : String) :
    (registry.register language).catalog? code =
      if language.code = code then some ((registry.catalog? code).getD ∅)
      else registry.catalog? code := by
  simp only [register, catalog?, Std.ExtTreeMap.getElem?_insertIfNew]
  by_cases hcode : language.code = code
  · subst hcode
    by_cases hmem : language.code ∈ registry.catalogs <;> simp [hmem]
  · simp [hcode]

@[simp] theorem language?_install (registry : Registry) (language : Language) (code : String) :
    (registry.install language).language? code =
      if language.code = code then some language else registry.language? code := by
  simp [install, language?, Languages.add, Std.ExtTreeMap.getElem?_insert]

@[simp] theorem catalog?_install (registry : Registry) (language : Language) (code : String) :
    (registry.install language).catalog? code =
      if language.code = code then some ∅ else registry.catalog? code := by
  simp [install, catalog?, Std.ExtTreeMap.getElem?_insert]

theorem language_eq_ok {registry : Registry} {code : String} {language : Language} :
    registry.language code = .ok language ↔ registry.language? code = some language := by
  unfold Registry.language
  split <;> simp_all

end Registry

end Phrasebook
