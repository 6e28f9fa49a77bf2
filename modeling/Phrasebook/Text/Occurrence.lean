/-!
Replacing every occurrence of a part of a text, from left to right. What is put in is not looked
at again.
-/
namespace Phrasebook

/-- The part to be replaced has a first character and, possibly, more. After an occurrence the
rest of it is still to be passed over, so many characters are skipped. -/
def replaceFrom (first : Char) (more replacement : List Char) : Nat → List Char → List Char
  | _, [] => []
  | skipped + 1, _ :: rest => replaceFrom first more replacement skipped rest
  | 0, char :: rest =>
    if char = first ∧ more <+: rest then
      replacement ++ replaceFrom first more replacement more.length rest
    else char :: replaceFrom first more replacement 0 rest

theorem replaceFrom_skip (first : Char) (more replacement skipped rest : List Char) :
    replaceFrom first more replacement skipped.length (skipped ++ rest) =
      replaceFrom first more replacement 0 rest := by
  induction skipped with
  | nil => rfl
  | cons char skipped ih => simpa [replaceFrom] using ih

theorem replaceFrom_occurrence (first : Char) (more replacement rest : List Char) :
    replaceFrom first more replacement 0 (first :: (more ++ rest)) =
      replacement ++ replaceFrom first more replacement 0 rest := by
  rw [replaceFrom, if_pos ⟨rfl, List.prefix_append more rest⟩, replaceFrom_skip]

theorem replaceFrom_append_of_not_mem {first : Char} {front : List Char} (hfirst : first ∉ front)
    (more replacement rest : List Char) :
    replaceFrom first more replacement 0 (front ++ rest) =
      front ++ replaceFrom first more replacement 0 rest := by
  induction front with
  | nil => rfl
  | cons char front ih =>
    simp only [List.mem_cons, not_or] at hfirst
    rw [List.cons_append, replaceFrom, if_neg fun h => hfirst.1 h.1.symm, ih hfirst.2]
    rfl

end Phrasebook
