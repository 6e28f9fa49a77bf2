/-!
Runs of decimal digits, and the values of hexadecimal ones. `digitRun` reads the longest run within
a limit; `paddedDigits` writes a number with at least a given number of digits, and denotes the same
number (`ofDigits_paddedDigits`).
-/
namespace Phrasebook

def digitRun (limit : Nat) (chars : List Char) : List Char × List Char :=
  let digits := (chars.take limit).takeWhile Char.isDigit
  (digits, chars.drop digits.length)

def ofDigits (digits : List Char) : Nat :=
  Nat.ofDigitChars 10 digits 0

def hexValue? (char : Char) : Option Nat :=
  if char.isDigit then some (char.toNat - '0'.toNat)
  else if 'a' ≤ char ∧ char ≤ 'f' then some (char.toNat - 'a'.toNat + 10)
  else if 'A' ≤ char ∧ char ≤ 'F' then some (char.toNat - 'A'.toNat + 10)
  else none

def paddedDigits (width n : Nat) : List Char :=
  let digits := Nat.toDigits 10 n
  List.replicate (width - digits.length) '0' ++ digits

@[simp] theorem ofDigits_paddedDigits (width n : Nat) : ofDigits (paddedDigits width n) = n := by
  simp [ofDigits, paddedDigits, Nat.ofDigitChars_append]

theorem length_paddedDigits (width n : Nat) :
    (paddedDigits width n).length = max width (Nat.toDigits 10 n).length := by
  simp only [paddedDigits, List.length_append, List.length_replicate]
  omega

theorem isDigit_of_mem_paddedDigits {width n : Nat} {char : Char}
    (h : char ∈ paddedDigits width n) : char.isDigit = true := by
  rcases List.mem_append.1 h with hzero | hdigit
  · rw [List.eq_of_mem_replicate hzero]
    rfl
  · exact Nat.isDigit_of_mem_toDigits (by decide) (by decide) hdigit

theorem digitRun_append {limit : Nat} {digits rest : List Char}
    (hdigits : ∀ c ∈ digits, c.isDigit = true) (hlimit : digits.length ≤ limit)
    (hrest : digits.length = limit ∨ ∀ c ∈ rest.head?, c.isDigit = false) :
    digitRun limit (digits ++ rest) = (digits, rest) := by
  have htake : ((digits ++ rest).take limit).takeWhile Char.isDigit = digits := by
    rw [List.take_append, List.take_of_length_le hlimit,
      List.takeWhile_append_of_pos hdigits]
    rcases hrest with heq | hstop
    · simp [heq]
    · cases rest with
      | nil => simp
      | cons char rest =>
        have hchar : char.isDigit = false := hstop char (by simp)
        cases hleft : limit - digits.length with
        | zero => simp
        | succ left => simp [List.take_succ_cons, hchar]
  simp [digitRun, htake]

end Phrasebook
