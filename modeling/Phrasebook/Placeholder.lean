import Phrasebook.Language.Chain

/-!
Placeholders. The word between braces is a value name, which then belongs to the domain `plain`,
or a domain applied to a value name, as in `number(count)`.
-/
namespace Phrasebook

structure Placeholder where
  name : String
  domain : Domain

namespace Placeholder

def plainDomain : String := "plain"

def splitWord (word : String) : Except Error (String × String) :=
  if hasParenthesis word then
    match application? word.toList with
    | some names => .ok names
    | none => .error (.malformedPlaceholder word .shape)
  else .ok (plainDomain, word)

def parse (languages : Languages) (code word : String) : Except Error Placeholder := do
  let (domainName, name) ← splitWord word
  if name = "" then throw (.malformedPlaceholder word .emptyName)
  let domain ← languages.resolveDomain code domainName
  return { name, domain }

/-- What stands in a translation key for the placeholder, once the category of its value is
known. -/
def tag (placeholder : Placeholder) (category : String) : String :=
  braced (category ++ "(" ++ placeholder.domain.name ++ "(" ++ placeholder.name ++ "))")

def tags (placeholder : Placeholder) : List String :=
  placeholder.domain.categories.map (placeholder.tag ·.name)

def tagFor (placeholder : Placeholder) (values : Values) : Except Error String :=
  match values[placeholder.name]? with
  | none => .error (.missingValue placeholder.name)
  | some value =>
    match placeholder.domain.classify value with
    | .ok category => .ok (placeholder.tag category.name)
    | .error error => .error (error.atPlaceholder placeholder.name)

theorem tagFor_mem_tags {placeholder : Placeholder} {values : Values} {tag : String}
    (h : placeholder.tagFor values = .ok tag) : tag ∈ placeholder.tags := by
  unfold tagFor at h
  split at h
  · contradiction
  · split at h
    · next category hclassify =>
      cases h
      exact List.mem_map.2 ⟨category, Domain.mem_categories_of_classify hclassify, rfl⟩
    · contradiction

end Placeholder

end Phrasebook
