import Phrasebook.Number.Basic
import Std.Data.ExtTreeMap

/-!
JSON values. Numbers written without point and exponent stay integers as long as they fit 64 bits.
An object is a list of fields, in the order in which they were written; `canonical` sorts the
fields and keeps the last of those with one name.
-/
namespace Phrasebook

inductive Json where
  | null
  | bool (value : Bool)
  | integer (value : Int)
  | float (value : Number)
  | text (value : String)
  | array (items : List Json)
  | object (fields : List (String × Json))

namespace Json

def sortFields (fields : List (String × Json)) : List (String × Json) :=
  (Std.ExtTreeMap.ofList fields).toList

mutual

/-- Sort the fields of every object by name; the last of equally named ones stays. -/
def canonical : Json → Json
  | array items => array (canonicalItems items)
  | object fields => object (sortFields (canonicalFields fields))
  | json => json

def canonicalItems : List Json → List Json
  | [] => []
  | item :: items => canonical item :: canonicalItems items

def canonicalFields : List (String × Json) → List (String × Json)
  | [] => []
  | (name, value) :: fields => (name, canonical value) :: canonicalFields fields

end

def text? : Json → Option String
  | text value => some value
  | _ => none

end Json

end Phrasebook
