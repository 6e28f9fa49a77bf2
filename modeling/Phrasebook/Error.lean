/-!
What can go wrong in parsing, classifying and rendering, and how it is told.
-/
namespace Phrasebook

inductive PlaceholderFault where
  | shape
  | emptyName
  deriving DecidableEq

def PlaceholderFault.message : PlaceholderFault → String
  | shape => "expected `name` or `domain(name)`"
  | emptyName => "placeholder name is empty"

inductive DomainFault where
  | emptyName
  | reservedCharacter
  | noCategory
  deriving DecidableEq

def DomainFault.message : DomainFault → String
  | emptyName => "name must not be empty"
  | reservedCharacter => "name must not contain any of \x7b \x7d ( )"
  | noCategory => "at least one category is required"

inductive Error where
  /-- A pattern in JSON form is no text. -/
  | sourceNotText (json : String)
  /-- Values in JSON form are neither an object nor absent. -/
  | valuesNotObject (json : String)
  | malformedPlaceholder (word : String) (fault : PlaceholderFault)
  /-- No language along the fallback chain defines the domain. -/
  | unsupportedDomain (domain language : String)
  | notCovered (value domain : String) (placeholder : Option String)
  | missingValue (placeholder : String)
  | unknownLanguage (code : String)
  | invalidDomain (name : String) (fault : DomainFault)
  /-- The fallback chain is longer than any chain without a cycle is expected to be. -/
  | chainTooLong (code : String) (limit : Nat)
  /-- No catalog along the fallback chain has the key, where one must have it. -/
  | untranslated (key : String)
  deriving DecidableEq

namespace Error

def message : Error → String
  | sourceNotText json => "Source keys need to be text but got: " ++ json
  | valuesNotObject json => "Values need to be an object but got: " ++ json
  | malformedPlaceholder word fault =>
    "Malformed placeholder \x7b" ++ word ++ "\x7d: " ++ fault.message
  | unsupportedDomain domain language =>
    domain ++ " is not a known domain for language " ++ language
  | notCovered value domain none => value ++ " is not covered by domain " ++ domain
  | notCovered value domain (some placeholder) =>
    "Cannot substitute placeholder " ++ placeholder ++ ": " ++ value ++
      " is not covered by domain " ++ domain
  | missingValue placeholder => "No value given for placeholder: " ++ placeholder
  | unknownLanguage code => "Unknown language code: '" ++ code ++ "'"
  | invalidDomain name fault => "Invalid domain '" ++ name ++ "': " ++ fault.message
  | chainTooLong code limit =>
    "Fallback chain of language " ++ code ++ " exceeds " ++ toString limit ++ " languages"
  | untranslated key => "Translation for pattern missing: " ++ key

def atPlaceholder (placeholder : String) : Error → Error
  | notCovered value domain _ => notCovered value domain (some placeholder)
  | error => error

end Error

theorem exists_of_bind_eq_ok {ε α β : Type} {first : Except ε α} {next : α → Except ε β}
    {result : β} (h : first >>= next = .ok result) :
    ∃ value, first = .ok value ∧ next value = .ok result := by
  cases first with
  | error => contradiction
  | ok value => exact ⟨value, rfl, h⟩

end Phrasebook
