import Phrasebook.Language.Chain

/-!
The languages that come with the library. `root` has the domains that every language needs; the
others say only how they differ from their fallback.
-/
namespace Phrasebook

namespace Standard

/-- A number; what is no number in double precision either does not count. -/
def isNumber (value : Value) : Bool :=
  match value.number? with
  | some number => !number.isNaN
  | none => false

def isExactly (n : Int) (value : Value) : Bool :=
  match value.number? with
  | some number => number.eq (.ofInt n)
  | none => false

def isText (text : String) (value : Value) : Bool :=
  value.text? == some text

def plain : Domain where
  name := "plain"
  categories := [.catchAll "plain"]
  format := Value.shown
  name_ne_empty := by decide
  isPlain_name := by decide
  categories_ne_nil := by simp

def rootNumber : Domain where
  name := "number"
  categories := [⟨"zero", isExactly 0⟩, ⟨"one", isExactly 1⟩, ⟨"other", isNumber⟩]
  format := Value.shown
  name_ne_empty := by decide
  isPlain_name := by decide
  categories_ne_nil := by simp

/-- Singular for one alone, plural for all other numbers, zero included. -/
def singularPlural : Domain where
  name := "number"
  categories := [⟨"one", isExactly 1⟩, ⟨"zero", isNumber⟩]
  format := Value.shown
  name_ne_empty := by decide
  isPlain_name := by decide
  categories_ne_nil := by simp

def gender (format : Value → String) : Domain where
  name := "gender"
  categories := [⟨"male", isText "male"⟩, ⟨"female", isText "female"⟩, .catchAll "unknown"]
  format := format
  name_ne_empty := by decide
  isPlain_name := by decide
  categories_ne_nil := by simp

def germanGender (value : Value) : String :=
  match value.text? with
  | some "male" => "männlich"
  | some "female" => "weiblich"
  | _ => "unbestimmt"

/-- Dates in one written form; other values are shown as they are. -/
def date (write : Date → String) : Domain where
  name := "date"
  categories := [⟨"date", fun value => value.date?.isSome⟩]
  format := fun value =>
    match value.date? with
    | some date => write date
    | none => value.shown
  name_ne_empty := by decide
  isPlain_name := by decide
  categories_ne_nil := by simp

def root : Language :=
  { code := "root"
    domains := [plain, rootNumber, gender Value.shown, date Date.isoText] }

def english : Language :=
  (root.extend "en").updateDomain singularPlural

def german : Language :=
  ((root.extend "de").updateDomain singularPlural).updateDomain (gender germanGender)
    |>.updateDomain (date Date.dottedText)

def languages : List Language :=
  [root, english, german, german.extend "de_DE", german.extend "de_AT"]

end Standard

end Phrasebook
