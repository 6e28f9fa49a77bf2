import Phrasebook.Language.Basic

/-!
Fallback chains. The chain of a language starts with it and goes on from fallback to fallback,
until a language has none or names one that is not known. What a language does not define is
looked up along its chain.
-/
namespace Phrasebook

abbrev Languages := Std.ExtTreeMap String Language

/-- A chain with more languages than this is taken for a cycle. -/
def chainLimit : Nat := 32

namespace Languages

def add (languages : Languages) (language : Language) : Languages :=
  languages.insert language.code language

def ofLanguages (added : List Language) : Languages :=
  added.foldl add ∅

def parent? (languages : Languages) (language : Language) : Option Language :=
  language.fallback.bind (languages[·]?)

def lineage? (languages : Languages) : Nat → Language → Option (List Language)
  | 0, _ => none
  | limit + 1, language =>
    match languages.parent? language with
    | none => some [language]
    | some parent => (lineage? languages limit parent).map (language :: ·)

def chain (languages : Languages) (code : String) : Except Error (List Language) :=
  match languages[code]? with
  | none => .error (.unknownLanguage code)
  | some language =>
    match languages.lineage? chainLimit language with
    | some chain => .ok chain
    | none => .error (.chainTooLong code chainLimit)

def resolveDomain (languages : Languages) (code name : String) : Except Error Domain := do
  match (← languages.chain code).findSome? (·.localDomain? name) with
  | some domain => .ok domain
  | none => .error (.unsupportedDomain name code)

theorem head?_lineage? {languages : Languages} {limit : Nat} {language : Language}
    {chain : List Language} (h : languages.lineage? limit language = some chain) :
    chain.head? = some language := by
  cases limit with
  | zero => contradiction
  | succ limit =>
    rw [lineage?] at h
    split at h
    · cases h
      rfl
    · obtain ⟨rest, _, rfl⟩ := Option.map_eq_some_iff.1 h
      rfl

end Languages

end Phrasebook
