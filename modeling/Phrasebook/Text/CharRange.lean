/-!
Sets of characters given by ranges of code points.
-/
namespace Phrasebook

/-- The first and the last code point of each range. -/
abbrev CharRanges := List (Nat × Nat)

def CharRanges.contains (ranges : CharRanges) (char : Char) : Bool :=
  ranges.any fun (first, last) => first ≤ char.toNat && char.toNat ≤ last

theorem CharRanges.contains_eq_filter (ranges : CharRanges) {char : Char} {bound : Nat}
    (h : char.toNat < bound) :
    ranges.contains char = CharRanges.contains (ranges.filter (·.1 < bound)) char := by
  rw [contains, contains, List.any_filter]
  congr 1
  funext range
  by_cases hfirst : range.1 ≤ char.toNat
  · simp [hfirst, Nat.lt_of_le_of_lt hfirst h]
  · simp [hfirst]

end Phrasebook
