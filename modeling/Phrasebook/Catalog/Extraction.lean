import Phrasebook.Catalog.Basic
import Phrasebook.Pattern.Key

/-!
Extraction brings a catalog up to date with the patterns of a codebase: every key that a pattern
derives gets an entry, with an empty text if it is new.
-/
namespace Phrasebook

structure ExtractionOptions where
  /-- Drop the keys that no pattern derives. -/
  discardUnused : Bool := false
  /-- Drop the keys without a translation. -/
  discardEmpty : Bool := false

structure RejectedPattern where
  source : String
  error : Error

structure ExtractionReport where
  patterns : Nat
  keys : Nat
  added : List String
  discarded : List String
  untranslated : List String
  rejected : List RejectedPattern

namespace ExtractionReport

def rejectedJson (rejected : RejectedPattern) : Json :=
  .object [("pattern", .text rejected.source), ("reason", .text rejected.error.message)]

def toJson (report : ExtractionReport) : Json :=
  .object [
    ("patterns", .integer report.patterns),
    ("keys", .integer report.keys),
    ("added", .array (report.added.map .text)),
    ("discarded", .array (report.discarded.map .text)),
    ("untranslated", .array (report.untranslated.map .text)),
    ("rejected", .array (report.rejected.map rejectedJson))]

end ExtractionReport

namespace Catalog

/-- The keys that the readable ones of the patterns derive, with empty texts. -/
def blank (languages : Languages) (code : String) (sources : List String) : Catalog :=
  ofPairs <| sources.flatMap fun source =>
    match Pattern.parse languages code source with
    | .ok pattern => pattern.keys.map (·, "")
    | .error _ => []

def rejected (languages : Languages) (code : String) (sources : List String) :
    List RejectedPattern :=
  sources.filterMap fun source =>
    match Pattern.parse languages code source with
    | .ok _ => none
    | .error error => some { source, error }

def retains (options : ExtractionOptions) (derived : Catalog) (key text : String) : Bool :=
  !(options.discardUnused && !derived.contains key) && !(options.discardEmpty && text == "")

def extract (languages : Languages) (code : String) (options : ExtractionOptions)
    (sources : List String) (catalog : Catalog) : Catalog × ExtractionReport :=
  let derived := blank languages code sources
  let complete := derived.mergeCatalog catalog
  let kept : Catalog := complete.filter (retains options derived)
  let report := {
    patterns := sources.length
    keys := derived.size
    added := derived.keys.filter (!catalog.contains ·)
    discarded := complete.keys.filter (!kept.contains ·)
    untranslated := kept.untranslated
    rejected := rejected languages code sources }
  (kept, report)

end Catalog

end Phrasebook
