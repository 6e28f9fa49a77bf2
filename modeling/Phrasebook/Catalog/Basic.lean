import Phrasebook.Json.Reader
import Phrasebook.Json.Writer

/-!
Catalogs: the translated texts of one language by translation key. An empty text is an entry that
still waits for its translation.
-/
namespace Phrasebook

abbrev Catalog := Std.ExtTreeMap String String

namespace Catalog

def ofPairs (pairs : List (String × String)) : Catalog :=
  .ofList pairs

/-- Add the pairs, in place of entries with the same key; the last of equal keys counts. -/
def merge (catalog : Catalog) (pairs : List (String × String)) : Catalog :=
  catalog.insertMany pairs

def mergeCatalog (catalog other : Catalog) : Catalog :=
  catalog.merge other.toList

def untranslated (catalog : Catalog) : List String :=
  (catalog.toList.filter (·.2 == "")).map (·.1)

def toJson (catalog : Catalog) : Json :=
  .object (catalog.toList.map fun (key, text) => (key, .text text))

def entryOfField? (field : String × Json) : Option (String × String) :=
  field.2.text?.map fun text => (field.1, text)

def ofJson? : Json → Option Catalog
  | .object fields => (fields.mapM entryOfField?).map ofPairs
  | _ => none

def ofText? (text : String) : Option Catalog :=
  (Json.ofText? text).bind ofJson?

/-- The text of a catalog file: one entry a line, indented by a tabulator. -/
def fileText (catalog : Catalog) : String :=
  catalog.toJson.prettyText "\t"

theorem mem_merge {catalog : Catalog} {pairs : List (String × String)} {key : String} :
    key ∈ catalog.merge pairs ↔ key ∈ catalog ∨ key ∈ pairs.map Prod.fst := by
  rw [merge, Std.ExtTreeMap.mem_insertMany_list, List.contains_iff_mem]

theorem getElem?_merge_of_not_mem {catalog : Catalog} {pairs : List (String × String)}
    {key : String} (h : key ∉ pairs.map Prod.fst) :
    (catalog.merge pairs)[key]? = catalog[key]? :=
  Std.ExtTreeMap.getElem?_insertMany_list_of_contains_eq_false (by simpa using h)

theorem getElem?_mergeCatalog (catalog other : Catalog) (key : String) :
    (catalog.mergeCatalog other)[key]? = other[key]?.or catalog[key]? := by
  cases hother : other[key]? with
  | none =>
    have hmem : key ∉ other.toList.map Prod.fst := by
      rw [Std.ExtTreeMap.map_fst_toList_eq_keys, Std.ExtTreeMap.mem_keys,
        Std.ExtTreeMap.mem_iff_isSome_getElem?, hother]
      decide
    exact getElem?_merge_of_not_mem hmem
  | some text =>
    exact Std.ExtTreeMap.getElem?_insertMany_list_of_mem Std.ReflCmp.compare_self
      Std.ExtTreeMap.distinct_keys_toList
      (Std.ExtTreeMap.mem_toList_iff_getElem?_eq_some.2 hother)

theorem mergeCatalog_mergeCatalog (catalog other : Catalog) :
    (catalog.mergeCatalog other).mergeCatalog other = catalog.mergeCatalog other := by
  apply Std.ExtTreeMap.ext_getElem?
  intro key
  simp only [getElem?_mergeCatalog, ← Option.or_assoc, Option.or_self]

theorem ofPairs_toList (catalog : Catalog) : ofPairs catalog.toList = catalog := by
  have hmerge : ofPairs catalog.toList = mergeCatalog ∅ catalog :=
    Std.ExtTreeMap.ofList_eq_insertMany_empty
  apply Std.ExtTreeMap.ext_getElem?
  intro key
  rw [hmerge, getElem?_mergeCatalog]
  simp

end Catalog

end Phrasebook
