import Mathlib.Algebra.Group.Int.Defs
import Mathlib.Data.List.TakeWhile
import Phrasebook.Proofs.Json.Reading
import Phrasebook.Proofs.Number.Decimal

/-!
Whole numbers in JSON. One that fits 64 bits is read as it is written (`ofText?_toString`): no digit
is lost, and no rounding takes place before there is a number in double precision to be made.
-/
namespace Phrasebook.Json

theorem head?_toDigits_ne_zero {n : Nat} (hn : 0 < n) : (Nat.toDigits 10 n).head? ≠ some '0' := by
  induction n using Nat.strongRecOn with
  | ind n ih =>
    by_cases hten : n < 10
    · have hdigit : ∀ m < 10, 0 < m → Nat.digitChar m ≠ '0' := by decide
      rw [Nat.toDigits_of_lt_base hten]
      simpa using hdigit n hten hn
    · rw [Nat.toDigits_of_base_le (by decide) (by omega), List.head?_append,
        List.head?_eq_some_head Nat.toDigits_ne_nil, Option.some_or,
        ← List.head?_eq_some_head]
      exact ih (n / 10) (by omega) (by omega)

theorem absorbDigits_of_lt {digits : List Char} {value : Nat}
    (h : Nat.ofDigitChars 10 digits value < 2 ^ 64) :
    absorbDigits value digits = (Nat.ofDigitChars 10 digits value, []) := by
  induction digits generalizing value with
  | nil => rfl
  | cons digit digits ih =>
    have hnext : 10 * value + ofDigits [digit] = 10 * value + (digit.toNat - '0'.toNat) := by
      simp [ofDigits, Nat.ofDigitChars_cons]
    rw [Nat.ofDigitChars_cons] at h ⊢
    have hpow : 1 ≤ 10 ^ digits.length := Nat.pow_pos (by decide)
    have hle : 10 * value + (digit.toNat - '0'.toNat) ≤
        Nat.ofDigitChars 10 digits (10 * value + (digit.toNat - '0'.toNat)) := by
      rw [Nat.ofDigitChars_eq_ofDigitChars_zero]
      exact Nat.le_add_right_of_le (Nat.le_mul_of_pos_left _ hpow)
    rw [absorbDigits, hnext, if_pos (Nat.lt_of_le_of_lt hle h), ih h]

theorem ofNumeral?_toDigits {negative : Bool} {n : Nat} (h : n < 2 ^ 64) :
    ofNumeral? (Number.signText negative ++ Nat.toDigits 10 n) = some (wholeNumber negative n) := by
  have hdigits : ∀ c ∈ Nat.toDigits 10 n, c.isDigit = true := fun c hc =>
    Nat.isDigit_of_mem_toDigits (by decide) (by decide) hc
  have hrun : digitRun (Nat.toDigits 10 n).length (Nat.toDigits 10 n) =
      (Nat.toDigits 10 n, []) := by
    have happend := @digitRun_append _ _ [] hdigits (Nat.le_refl _) (.inl rfl)
    rwa [List.append_nil] at happend
  have hzero : ((Nat.toDigits 10 n).head? == some '0' &&
      decide (1 < (Nat.toDigits 10 n).length)) = false := by
    rcases Nat.eq_zero_or_pos n with rfl | hpos
    · rfl
    · simp [head?_toDigits_ne_zero hpos]
  have hvalue : absorbDigits 0 (Nat.toDigits 10 n) = (n, []) := by
    rw [absorbDigits_of_lt (by rwa [Nat.ofDigitChars_ten_toDigits]),
      Nat.ofDigitChars_ten_toDigits]
  unfold ofNumeral?
  split
  next sign rest hsign =>
    have hparts : sign = negative ∧ rest = Nat.toDigits 10 n := by
      cases negative with
      | true =>
        cases hsign
        exact ⟨rfl, rfl⟩
      | false =>
        simp only [Number.signText, Bool.false_eq_true, if_false, List.nil_append] at hsign
        split at hsign
        · next digits hminus =>
          have hmem : '-' ∈ Nat.toDigits 10 n := hminus ▸ List.mem_cons_self
          exact absurd (hdigits '-' hmem) (by decide)
        · cases hsign
          exact ⟨rfl, rfl⟩
    obtain ⟨rfl, rfl⟩ := hparts
    simp [hrun, hzero, hvalue]

theorem readAll_of_ofNumeral? {first : Char} {rest : List Char} {json : Json}
    (hfirst : first.isDigit = true ∨ first = '-') (hrest : ∀ c ∈ rest, c.isDigit = true)
    (h : ofNumeral? (first :: rest) = some json) :
    Token.readAll (first :: rest) = some [.scalar json] := by
  have hpunctuation : Token.punctuation? first = none := by
    unfold Token.punctuation?
    split <;> simp_all
  have hspace : Token.isSpace first = false := by
    simp only [Token.isSpace, Bool.or_eq_false_iff, beq_eq_false_iff_ne]
    refine ⟨⟨⟨?_, ?_⟩, ?_⟩, ?_⟩ <;>
    · rintro rfl
      simp at hfirst
  have hquote : first ≠ '"' := by
    rintro rfl
    simp at hfirst
  have hnumeral : ∀ c ∈ rest, Token.isNumeralChar c = true := fun c hc => by
    simp [Token.isNumeralChar, hrest c hc]
  have hread : Token.read first rest = some (.scalar json, []) := by
    unfold Token.read
    rw [hpunctuation]
    dsimp only
    rw [if_neg hquote, if_pos (by simpa using hfirst), List.takeWhile_eq_self_iff.2 hnumeral, h,
      List.dropWhile_eq_nil_iff.2 hnumeral]
    rfl
  rw [Token.readAll_of_read hspace hread, Token.readAll]
  rfl

theorem wholeNumber_natAbs {k : Int} (hlow : -2 ^ 63 ≤ k) :
    wholeNumber (k < 0) k.natAbs = .integer k := by
  unfold wholeNumber
  by_cases hnegative : k < 0
  · have hfits : ¬ (k.natAbs = 0 ∨ 2 ^ 63 < k.natAbs) := by omega
    have hvalue : -(k.natAbs : Int) = k := by omega
    rw [decide_eq_true hnegative, if_neg (by decide), if_neg hfits, hvalue]
  · have hvalue : (k.natAbs : Int) = k := by omega
    rw [decide_eq_false hnegative, if_pos (by decide), hvalue]

theorem ofText?_toString {k : Int} (hlow : -2 ^ 63 ≤ k) (hhigh : k < 2 ^ 64) :
    ofText? (toString k) = some (.integer k) := by
  have hnumeral : ofNumeral? (toString k).toList = some (.integer k) := by
    rw [toList_toString_int, ofNumeral?_toDigits (by omega), wholeNumber_natAbs hlow]
  have hdigits : ∀ c ∈ Nat.toDigits 10 k.natAbs, c.isDigit = true := fun c hc =>
    Nat.isDigit_of_mem_toDigits (by decide) (by decide) hc
  have hread : Token.readAll (toString k).toList = some [.scalar (.integer k)] := by
    rw [toList_toString_int] at hnumeral ⊢
    unfold Number.signText at hnumeral ⊢
    split
    · next hnegative =>
      rw [if_pos hnegative] at hnumeral
      exact readAll_of_ofNumeral? (.inr rfl) hdigits hnumeral
    · next hnegative =>
      rw [if_neg hnegative] at hnumeral
      obtain ⟨first, rest, hcons⟩ :=
        List.exists_cons_of_ne_nil (Nat.toDigits_ne_nil (n := k.natAbs) (b := 10))
      rw [List.nil_append, hcons] at hnumeral ⊢
      rw [hcons] at hdigits
      obtain ⟨hfirst, hrest⟩ := List.forall_mem_cons.1 hdigits
      exact readAll_of_ofNumeral? (.inl hfirst) hrest hnumeral
  rw [ofText?, hread]
  rfl

end Phrasebook.Json
