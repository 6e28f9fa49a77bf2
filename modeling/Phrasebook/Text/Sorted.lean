import Std.Data.ExtTreeSet

/-!
Texts in order of their code points, each once.
-/
namespace Phrasebook

def sortedDistinct (texts : List String) : List String :=
  (Std.ExtTreeSet.ofList texts).toList

@[simp] theorem mem_sortedDistinct {text : String} {texts : List String} :
    text ∈ sortedDistinct texts ↔ text ∈ texts := by
  simp [sortedDistinct]

end Phrasebook
