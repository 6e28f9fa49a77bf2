import Phrasebook.Value

/-!
Dates read back from their text. What `Date.isoText` writes is read as the same date, whatever its
year (`Date.ofText?_isoText`). No other value than a text or a date is shown as a date
(`Value.date?_shown_eq_none`): two dashes stand in a date, and at most one in a number.
-/
namespace Phrasebook

theorem isBlank_eq_false_of_isDigit {char : Char} (h : char.isDigit = true) :
    isBlank char = false := by
  have hrange : 48 ≤ char.toNat ∧ char.toNat ≤ 57 := by
    simpa [Char.isDigit, UInt32.le_iff_toNat_le] using h
  have hranges : blankRanges.filter (·.1 < 58) = [(0x9, 0xD), (0x20, 0x20)] := by decide
  rw [isBlank, CharRanges.contains_eq_filter blankRanges (Nat.lt_succ_of_le hrange.2), hranges]
  simp only [CharRanges.contains, List.any_cons, List.any_nil, Bool.or_eq_false_iff,
    Bool.and_eq_false_iff, decide_eq_false_iff_not, and_true]
  omega

theorem skipBlanks_cons {char : Char} (h : isBlank char = false) (rest : List Char) :
    skipBlanks (char :: rest) = char :: rest := by
  simp [skipBlanks, h]

theorem exists_paddedDigits (width n : Nat) :
    ∃ digit digits, paddedDigits width n = digit :: digits ∧ digit.isDigit = true ∧
      ofDigits (digit :: digits) = n := by
  have hpos : 0 < (paddedDigits width n).length := by
    have htoDigits : 0 < (Nat.toDigits 10 n).length := Nat.length_toDigits_pos
    rw [length_paddedDigits]
    omega
  obtain ⟨digit, digits, hdigits⟩ := List.exists_cons_of_length_pos hpos
  refine ⟨digit, digits, hdigits, ?_, ?_⟩
  · exact isDigit_of_mem_paddedDigits (hdigits ▸ List.mem_cons_self)
  · rw [← hdigits, ofDigits_paddedDigits]

theorem length_paddedDigits_of_lt {width n : Nat} (hwidth : 0 < width) (hn : n < 10 ^ width) :
    (paddedDigits width n).length = width := by
  have hle := (Nat.length_toDigits_le_iff (by decide) hwidth).2 hn
  rw [length_paddedDigits, Nat.max_eq_left hle]

theorem readPart_paddedDigits {n : Nat} (hn : n < 100) (rest : List Char) :
    readPart (paddedDigits 2 n ++ rest) = some (n, rest) := by
  have hlength : (paddedDigits 2 n).length = 2 := length_paddedDigits_of_lt (by decide) hn
  have hrun : digitRun 2 (paddedDigits 2 n ++ rest) = (paddedDigits 2 n, rest) :=
    digitRun_append (fun _ => isDigit_of_mem_paddedDigits) (Nat.le_of_eq hlength) (.inl hlength)
  obtain ⟨digit, digits, hdigits, hdigit, hvalue⟩ := exists_paddedDigits 2 n
  rw [hdigits, List.cons_append] at hrun
  rw [readPart, hdigits, List.cons_append, skipBlanks_cons (isBlank_eq_false_of_isDigit hdigit),
    hrun]
  exact congrArg (fun value => some (value, rest)) hvalue

theorem digitRun_signed (n : Nat) (rest : List Char) :
    ∃ digit digits, ofDigits (digit :: digits) = n ∧
      digitRun (paddedDigits 4 n ++ '-' :: rest).length (paddedDigits 4 n ++ '-' :: rest) =
        (digit :: digits, '-' :: rest) := by
  obtain ⟨digit, digits, hdigits, -, hvalue⟩ := exists_paddedDigits 4 n
  refine ⟨digit, digits, hvalue, ?_⟩
  rw [← hdigits]
  exact digitRun_append (fun _ => isDigit_of_mem_paddedDigits) (by simp) (.inr (by simp))

theorem readYear_yearText (year : Int) (rest : List Char) :
    readYear (yearText year ++ '-' :: rest) = some (year, '-' :: rest) := by
  unfold yearText
  split
  · next hshort =>
    have hlength : (paddedDigits 4 year.toNat).length = 4 :=
      length_paddedDigits_of_lt (by decide) (by omega)
    have hrun : digitRun 4 (paddedDigits 4 year.toNat ++ '-' :: rest) =
        (paddedDigits 4 year.toNat, '-' :: rest) :=
      digitRun_append (fun _ => isDigit_of_mem_paddedDigits) (Nat.le_of_eq hlength) (.inl hlength)
    obtain ⟨digit, digits, hdigits, hdigit, hvalue⟩ := exists_paddedDigits 4 year.toNat
    rw [hdigits, List.cons_append] at hrun
    rw [readYear, hdigits, List.cons_append,
      skipBlanks_cons (isBlank_eq_false_of_isDigit hdigit)]
    -- A digit is none of the signs.
    split
    · next heq =>
      cases heq
      contradiction
    · next heq =>
      cases heq
      contradiction
    · simp only [hrun, hvalue, Option.some.injEq, Prod.mk.injEq, and_true]
      omega
  · next hlong =>
    obtain ⟨digit, digits, hvalue, hrun⟩ := digitRun_signed year.natAbs rest
    split
    · next hnegative =>
      rw [readYear, List.cons_append, skipBlanks_cons (by decide)]
      simp only [hrun, hvalue, Option.some.injEq, Prod.mk.injEq, and_true]
      omega
    · next hpositive =>
      rw [readYear, List.cons_append, skipBlanks_cons (by decide)]
      simp only [hrun, hvalue, Option.some.injEq, Prod.mk.injEq, and_true]
      omega

theorem skipBlanks_suffix (chars : List Char) : skipBlanks chars <:+ chars :=
  List.dropWhile_suffix isBlank

theorem suffix_of_digits {α : Type} {limit : Nat} {chars rest : List Char} {value : α}
    {denote : List Char → α}
    (h : (match digitRun limit chars with
      | ([], _) => none
      | (digits, rest) => some (denote digits, rest)) = some (value, rest)) : rest <:+ chars := by
  split at h
  · contradiction
  · next hrun =>
    cases h
    cases hrun
    exact List.drop_suffix _ _

theorem suffix_of_readPart {chars rest : List Char} {n : Nat}
    (h : readPart chars = some (n, rest)) : rest <:+ chars :=
  (suffix_of_digits h).trans (skipBlanks_suffix chars)

theorem suffix_of_readYear {chars rest : List Char} {year : Int}
    (h : readYear chars = some (year, rest)) : rest <:+ chars := by
  refine List.IsSuffix.trans ?_ (skipBlanks_suffix chars)
  unfold readYear at h
  split at h
  · next signed hsigned =>
    rw [hsigned]
    exact (suffix_of_digits h).trans (List.suffix_cons '-' signed)
  · next signed hsigned =>
    rw [hsigned]
    exact (suffix_of_digits h).trans (List.suffix_cons '+' signed)
  · exact suffix_of_digits h

theorem eq_of_readDash {chars rest : List Char} (h : readDash chars = some rest) :
    chars = '-' :: rest := by
  unfold readDash at h
  split at h
  · cases h
    rfl
  · contradiction

namespace Date

theorem ofText?_isoText (date : Date) : ofText? date.isoText = some date := by
  have hmonth : date.month < 100 := by
    have hle := date.isCalendarDay.2.2.2.1
    omega
  have hday : date.day < 100 := by
    have hle := date.day_le
    omega
  have hlast := readPart_paddedDigits hday []
  rw [List.append_nil] at hlast
  simp [ofText?, isoText, readYear_yearText, readDash, readPart_paddedDigits hmonth, hlast]

theorem two_le_count_of_ofText? {text : String} {date : Date} (h : ofText? text = some date) :
    2 ≤ text.toList.count '-' := by
  obtain ⟨⟨year, rest⟩, hyear, h⟩ := Option.bind_eq_some_iff.1 h
  obtain ⟨rest₁, hdash, h⟩ := Option.bind_eq_some_iff.1 h
  obtain ⟨⟨month, rest₂⟩, hmonth, h⟩ := Option.bind_eq_some_iff.1 h
  obtain ⟨rest₃, hdash', -⟩ := Option.bind_eq_some_iff.1 h
  obtain rfl := eq_of_readDash hdash
  obtain rfl := eq_of_readDash hdash'
  have hfirst := (suffix_of_readYear hyear).count_le '-'
  have hsecond := (suffix_of_readPart hmonth).count_le '-'
  simp only [List.count_cons_self] at hfirst hsecond
  omega

end Date

theorem Decimal.count_dash_positional (decimal : Decimal) :
    decimal.positional.count '-' = 0 := by
  have hdigits : '-' ∉ Nat.toDigits 10 decimal.coefficient := by
    intro hmem
    exact absurd (Nat.isDigit_of_mem_toDigits (by decide) (by decide) hmem) (by decide)
  have htake (k : Nat) : '-' ∉ (Nat.toDigits 10 decimal.coefficient).take k :=
    fun hmem => hdigits (List.mem_of_mem_take hmem)
  have hdrop (k : Nat) : '-' ∉ (Nat.toDigits 10 decimal.coefficient).drop k :=
    fun hmem => hdigits (List.mem_of_mem_drop hmem)
  rw [List.count_eq_zero]
  unfold positional
  dsimp only
  split
  · simp [hdigits]
  · split
    · simp [htake, hdrop]
    · simp [hdigits]

theorem Number.count_dash_text_le (number : Number) : number.text.toList.count '-' ≤ 1 := by
  cases number with
  | nan negative => simp [text]
  | signed negative rank isRank =>
    have hsign : (signText negative).count '-' ≤ 1 := by cases negative <;> decide
    rw [text, String.toList_ofList, List.count_append]
    split
    · exact hsign
    · split
      · exact hsign
      · rw [Decimal.count_dash_positional]
        exact hsign

namespace Value

theorem date?_shown_eq_none {value : Value} (h : value.date? = none) :
    (text value.shown).date? = none := by
  cases value with
  | undefined => decide
  | bool value => cases value <;> decide
  | number number =>
    cases hdate : Date.ofText? number.text with
    | none => exact hdate
    | some date =>
      have hdashes := Date.two_le_count_of_ofText? hdate
      have hsign := number.count_dash_text_le
      omega
  | text value => exact h
  | date date => contradiction

theorem date?_isoText (date : Date) : (text date.isoText).date? = some date :=
  date.ofText?_isoText

end Value

end Phrasebook
