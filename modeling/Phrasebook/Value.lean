import Phrasebook.Date.Text
import Phrasebook.Json.Writer

/-!
The values that an application hands in for the placeholders of a pattern.
-/
namespace Phrasebook

inductive Value where
  /-- Handed in, but without content. -/
  | undefined
  | bool (value : Bool)
  | number (value : Number)
  | text (value : String)
  | date (value : Date)
  deriving DecidableEq

namespace Value

def number? : Value → Option Number
  | number value => some value
  | _ => none

def text? : Value → Option String
  | text value => some value
  | _ => none

def date? : Value → Option Date
  | date value => some value
  | text value => Date.ofText? value
  | _ => none

def isUndefined : Value → Bool
  | undefined => true
  | _ => false

def display : Value → String
  | undefined => "undefined"
  | bool value => if value then "true" else "false"
  | number value => value.text
  | text value => value
  | date value => value.isoText

/-- The text of a value in a rendered pattern, where a value without content is left out. -/
def shown : Value → String
  | undefined => ""
  | value => value.display

/-- Numbers are rounded to double precision; arrays and objects become their compact text. -/
def ofJson (json : Json) : Value :=
  match json.canonical with
  | .null => undefined
  | .bool value => bool value
  | .integer value => number (.ofInt value)
  | .float value => number value
  | .text value => text value
  | json => text json.compactText

end Value

/-- The values by placeholder name. A name with an undefined value is still given. -/
abbrev Values := Std.ExtTreeMap String Value

namespace Values

def ofJson? : Json → Option Values
  | .object fields => some (.ofList (fields.map fun (name, value) => (name, Value.ofJson value)))
  | _ => none

end Values

end Phrasebook
