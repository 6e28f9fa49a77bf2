/-!
How deep the parts of a regular expression are nested. A single character is not nested at all; a
class, a group and a repetition go one deeper than what they hold.
-/
namespace Phrasebook.RegularExpression

def deepest : Nat := 250

/-- The height of several things in a row or side by side. One alone is no deeper for it. -/
def joinedHeight : List Nat → Nat
  | [] => 0
  | [height] => height
  | heights => (heights.max?.getD 0) + 1

end Phrasebook.RegularExpression
