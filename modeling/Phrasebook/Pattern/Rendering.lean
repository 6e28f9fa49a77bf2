import Phrasebook.Pattern.Key

/-!
Rendering: the text found for the key that the values select, with the values put in; or the
pattern itself, with the values put in, if there is no such text.
-/
namespace Phrasebook

structure Rendering where
  text : String
  key : String
  translated : Bool
  deriving DecidableEq

namespace Placeholder

def isMeantBy (placeholder : Placeholder) (value : Value) (word : String) : Bool :=
  word == placeholder.name ||
    match placeholder.domain.category? value with
    | some category => placeholder.tag category.name == braced word
    | none => false

def insertion? (placeholder : Placeholder) (values : Values) (word : String) :
    Option String := do
  let value ← values[placeholder.name]?
  if placeholder.isMeantBy value word then some (placeholder.domain.format value) else none

def sourceText (placeholder : Placeholder) (values : Values) : String :=
  match values[placeholder.name]? with
  | none | some .undefined => braced placeholder.name
  | some value => placeholder.domain.format value

end Placeholder

namespace Pattern

/-- Put the values into a translated text. The first placeholder that a word stands for counts; a
word that stands for none is left as it is. -/
def fill (pattern : Pattern) (values : Values) (template : String) : String :=
  replaceFragments (fun word =>
    (pattern.placeholders.findSome? fun (_, placeholder) =>
      placeholder.insertion? values word).getD (braced word)) template

def passThrough (pattern : Pattern) (values : Values) : String :=
  replaceFragments (fun word =>
    match pattern.placeholders.find? (·.1 == word) with
    | some (_, placeholder) => placeholder.sourceText values
    | none => braced word) pattern.source

def render (pattern : Pattern) (values : Values) (find? : String → Option String) :
    Except Error Rendering := do
  let key ← pattern.lookupKey values
  match find? key with
  | some template => return { text := pattern.fill values template, key, translated := true }
  | none => return { text := pattern.passThrough values, key, translated := false }

end Pattern

end Phrasebook
