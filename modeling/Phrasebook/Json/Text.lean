import Phrasebook.Number.Basic
import Phrasebook.Text.Digits

/-!
Texts in JSON: quoted, with escapes for the quote, the backslash and the controls. Reading accepts
every escape, code units in pairs included, and refuses a bare control or half a pair. What is
written is read back (`readChars_quoted`).
-/
namespace Phrasebook.Json

def hexDigit (n : Nat) : Char :=
  Nat.digitChar n

def quotedChar (char : Char) : List Char :=
  match char with
  | '"' => ['\\', '"']
  | '\\' => ['\\', '\\']
  | '\n' => ['\\', 'n']
  | '\r' => ['\\', 'r']
  | '\t' => ['\\', 't']
  | '\x08' => ['\\', 'b']
  | '\x0c' => ['\\', 'f']
  | _ =>
    if char.toNat < 0x20 then
      ['\\', 'u', '0', '0', hexDigit (char.toNat / 16), hexDigit (char.toNat % 16)]
    else [char]

def quoted (text : String) : List Char :=
  '"' :: (text.toList.flatMap quotedChar ++ ['"'])

def readUnit : List Char → Option (Nat × List Char)
  | a :: b :: c :: d :: rest => do
    let digits ← [a, b, c, d].mapM hexValue?
    some (digits.foldl (fun value digit => 16 * value + digit) 0, rest)
  | _ => none

def isHighUnit (unit : Nat) : Bool :=
  0xD800 ≤ unit && unit < 0xDC00

def isLowUnit (unit : Nat) : Bool :=
  0xDC00 ≤ unit && unit < 0xE000

/-- A character given by one code unit or by a high and a low one, behind `\u`. -/
def readUnits (chars : List Char) : Option (Char × List Char) := do
  let (unit, rest) ← readUnit chars
  if isLowUnit unit then none
  else if isHighUnit unit then
    match rest with
    | '\\' :: 'u' :: rest =>
      let (low, rest) ← readUnit rest
      if isLowUnit low then
        some (Char.ofNat (0x10000 + (unit - 0xD800) * 0x400 + (low - 0xDC00)), rest)
      else none
    | _ => none
  else some (Char.ofNat unit, rest)

def readEscape : List Char → Option (Char × List Char)
  | '"' :: rest => some ('"', rest)
  | '\\' :: rest => some ('\\', rest)
  | '/' :: rest => some ('/', rest)
  | 'b' :: rest => some ('\x08', rest)
  | 'f' :: rest => some ('\x0c', rest)
  | 'n' :: rest => some ('\n', rest)
  | 'r' :: rest => some ('\r', rest)
  | 't' :: rest => some ('\t', rest)
  | 'u' :: rest => readUnits rest
  | _ => none

theorem length_readUnit {chars rest : List Char} {unit : Nat}
    (h : readUnit chars = some (unit, rest)) : rest.length < chars.length := by
  unfold readUnit at h
  split at h
  · obtain ⟨digits, _, h⟩ := Option.bind_eq_some_iff.1 h
    cases h
    simp only [List.length_cons]
    omega
  · contradiction

theorem length_readUnits {chars rest : List Char} {char : Char}
    (h : readUnits chars = some (char, rest)) : rest.length < chars.length := by
  unfold readUnits at h
  obtain ⟨⟨unit, tail⟩, hunit, h⟩ := Option.bind_eq_some_iff.1 h
  have hlength := length_readUnit hunit
  simp only at h
  split at h
  · contradiction
  split at h
  · split at h
    · obtain ⟨⟨unit', tail'⟩, hlow, h⟩ := Option.bind_eq_some_iff.1 h
      have hlength' := length_readUnit hlow
      simp only at h
      split at h
      · simp only [Option.some.injEq, Prod.mk.injEq] at h
        simp only [List.length_cons, h.2] at hlength hlength'
        omega
      · contradiction
    · contradiction
  · simp only [Option.some.injEq, Prod.mk.injEq] at h
    exact h.2 ▸ hlength

theorem length_readEscape {chars rest : List Char} {char : Char}
    (h : readEscape chars = some (char, rest)) : rest.length < chars.length := by
  unfold readEscape at h
  split at h
  case h_9 => exact Nat.lt_succ_of_lt (length_readUnits h)
  case h_10 => contradiction
  all_goals
    cases h
    exact Nat.lt_succ_self _

def readChars : List Char → Option (List Char × List Char)
  | [] => none
  | char :: rest =>
    if char = '"' then some ([], rest)
    else if char = '\\' then
      match h : readEscape rest with
      | none => none
      | some (escaped, rest') =>
        have := length_readEscape h
        (readChars rest').map fun (chars, rest) => (escaped :: chars, rest)
    else if char.toNat < 0x20 then none
    else (readChars rest).map fun (chars, rest) => (char :: chars, rest)
termination_by chars => chars.length

theorem length_readChars {chars text rest : List Char} (h : readChars chars = some (text, rest)) :
    rest.length < chars.length := by
  fun_induction readChars chars generalizing text rest with
  | case1 => contradiction
  | case2 => cases h; simp
  | case3 => contradiction
  | case4 tail _ escaped rest' hescape hshort ih =>
    obtain ⟨⟨text', rest''⟩, hread, heq⟩ := Option.map_eq_some_iff.1 h
    cases heq
    have := ih hread
    simp only [List.length_cons]
    omega
  | case5 => contradiction
  | case6 char tail _ _ _ ih =>
    obtain ⟨⟨text', rest''⟩, hread, heq⟩ := Option.map_eq_some_iff.1 h
    cases heq
    have := ih hread
    simp only [List.length_cons]
    omega

theorem hexValue?_hexDigit : ∀ n < 16, hexValue? (hexDigit n) = some n := by
  decide

theorem readEscape_control {char : Char} (h : char.toNat < 0x20) (rest : List Char) :
    readEscape ('u' :: '0' :: '0' :: hexDigit (char.toNat / 16) :: hexDigit (char.toNat % 16) ::
      rest) = some (char, rest) := by
  have hhigh := hexValue?_hexDigit (char.toNat / 16) (by omega)
  have hlow := hexValue?_hexDigit (char.toNat % 16) (by omega)
  have hzero : hexValue? '0' = some 0 := by decide
  have hunit : readUnit ('0' :: '0' :: hexDigit (char.toNat / 16) ::
      hexDigit (char.toNat % 16) :: rest) = some (char.toNat, rest) := by
    simp [readUnit, hhigh, hlow, hzero]
    omega
  have hplain : isLowUnit char.toNat = false ∧ isHighUnit char.toNat = false := by
    constructor <;> simp only [isLowUnit, isHighUnit, Bool.and_eq_false_iff,
      decide_eq_false_iff_not] <;> omega
  simp [readEscape, readUnits, hunit, hplain, Char.ofNat_toNat]

theorem readChars_backslash {chars rest : List Char} {char : Char}
    (h : readEscape chars = some (char, rest)) :
    readChars ('\\' :: chars) =
      (readChars rest).map fun (chars, rest) => (char :: chars, rest) := by
  rw [readChars, if_neg (by decide), if_pos rfl]
  split
  · next hnone => simp [h] at hnone
  · next hsome =>
    cases h.symm.trans hsome
    rfl

theorem readChars_quotedChar (char : Char) (rest : List Char) :
    readChars (quotedChar char ++ rest) =
      (readChars rest).map fun (chars, rest) => (char :: chars, rest) := by
  unfold quotedChar
  split
  case h_8 =>
    next hquote hbackslash _ _ _ _ _ =>
    split
    · next hcontrol => exact readChars_backslash (readEscape_control hcontrol rest)
    · next hcontrol =>
      rw [List.cons_append, readChars, if_neg (by simpa using hquote),
        if_neg (by simpa using hbackslash), if_neg hcontrol]
      rfl
  all_goals exact readChars_backslash rfl

theorem readChars_quoted (text rest : List Char) :
    readChars (text.flatMap quotedChar ++ '"' :: rest) = some (text, rest) := by
  induction text with
  | nil => simp [readChars]
  | cons char text ih =>
    rw [List.flatMap_cons, List.append_assoc, readChars_quotedChar, ih]
    rfl

end Phrasebook.Json
