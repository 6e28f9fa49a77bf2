import Phrasebook.Text.CharRange

/-!
White space: the characters with the Unicode property `White_Space`.
-/
namespace Phrasebook

def blankRanges : CharRanges := [
  (0x9, 0xD), (0x20, 0x20), (0x85, 0x85), (0xA0, 0xA0), (0x1680, 0x1680), (0x2000, 0x200A),
  (0x2028, 0x2029), (0x202F, 0x202F), (0x205F, 0x205F), (0x3000, 0x3000)]

def isBlank (char : Char) : Bool :=
  blankRanges.contains char

def skipBlanks (chars : List Char) : List Char :=
  chars.dropWhile isBlank

def trimmed (chars : List Char) : List Char :=
  skipBlanks (skipBlanks chars.reverse).reverse

theorem skipBlanks_append_of_all {blanks : List Char} (h : ∀ c ∈ blanks, isBlank c = true)
    (rest : List Char) : skipBlanks (blanks ++ rest) = skipBlanks rest := by
  induction blanks with
  | nil => rfl
  | cons char blanks ih =>
    have hchar : isBlank char = true := h char (by simp)
    simpa [skipBlanks, hchar] using ih fun c hc => h c (by simp [hc])

end Phrasebook
