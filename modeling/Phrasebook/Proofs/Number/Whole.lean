import Phrasebook.Proofs.Number.Decimal

/-!
Whole numbers in double precision. Up to `2 ^ 53` each is a magnitude (`units_wholeRank`), different
ones differ (`eq_ofInt_iff`), and each is shown with all of its digits (`text_ofInt`). The last one
is also the nearest magnitude to its successor, which is not told from it; but it is the one that
is shown, because the successor is on no coarser grid.
-/
namespace Phrasebook.Number

def wholeRank (n : Nat) : Nat :=
  Rank.nearest fractionBits (n * 2 ^ unitExponent) 1

variable {n m : Nat}

theorem units_wholeRank_of_even (heven : n % 2 = 0) (h : n < 2 ^ 54) :
    units (wholeRank n) = n * 2 ^ unitExponent := by
  have hvalue : n * 2 ^ unitExponent = n / 2 * 2 ^ (unitExponent + 1) := by
    rw [Nat.pow_succ', ← Nat.mul_assoc, Nat.div_mul_cancel (Nat.dvd_of_mod_eq_zero heven)]
  have hhalf : n / 2 < 2 ^ (fractionBits + 1) := by
    simp only [fractionBits]
    omega
  rw [wholeRank, hvalue]
  exact Rank.units_nearest_mul_two_pow hhalf _

theorem units_wholeRank (h : n ≤ 2 ^ 53) : units (wholeRank n) = n * 2 ^ unitExponent := by
  rcases Nat.lt_or_eq_of_le h with hlt | rfl
  · exact Rank.units_nearest_mul_two_pow hlt _
  · exact units_wholeRank_of_even (by decide) (by decide)

theorem units_lt_units_iff {rank rank' : Nat} : units rank < units rank' ↔ rank < rank' :=
  (Rank.strictMono_units fractionBits).lt_iff_lt

theorem wholeRank_inj (hn : n ≤ 2 ^ 53) (hm : m ≤ 2 ^ 53) : wholeRank n = wholeRank m ↔ n = m := by
  refine ⟨fun h => ?_, congrArg wholeRank⟩
  have hunits := congrArg units h
  rw [units_wholeRank hn, units_wholeRank hm] at hunits
  exact Nat.eq_of_mul_eq_mul_right (Nat.two_pow_pos unitExponent) hunits

theorem wholeRank_zero : wholeRank 0 = 0 := by
  simp [wholeRank, Rank.nearest]

theorem wholeRank_lt_infinityRank (h : n ≤ 2 ^ 53) : wholeRank n < infinityRank := by
  have hinfinity : units infinityRank = 2 ^ fractionBits * 2 ^ 2046 := by
    have hrank : infinityRank = (2046 + 1) * 2 ^ fractionBits + 0 := rfl
    rw [units, hrank, Rank.units_of_le (Nat.zero_le _), Nat.add_zero]
  rw [← units_lt_units_iff, units_wholeRank h, hinfinity, ← Nat.pow_add]
  refine Nat.lt_of_le_of_lt (Nat.mul_le_mul_right (2 ^ unitExponent) h) ?_
  rw [← Nat.pow_add]
  exact Nat.pow_lt_pow_right (by decide) (by decide)

theorem between_of_accepts_wholeRank {lower upper c : Nat} (hlower : lower < n)
    (hupper : n < upper) (hn : n ≤ 2 ^ 53)
    (hunits : units (wholeRank upper) = upper * 2 ^ unitExponent)
    (h : Rank.accepts fractionBits (wholeRank n) (c * 2 ^ unitExponent) 1 = true) :
    lower + n ≤ 2 * c ∧ 2 * c ≤ n + upper := by
  have hpos : 0 < 2 ^ unitExponent := Nat.two_pow_pos unitExponent
  have hlowerUnits : units (wholeRank lower) = lower * 2 ^ unitExponent :=
    units_wholeRank (by omega)
  have hlowerRank : wholeRank lower < wholeRank n := by
    rw [← units_lt_units_iff, hlowerUnits, units_wholeRank hn]
    exact Nat.mul_lt_mul_of_pos_right hlower hpos
  have hupperRank : wholeRank n < wholeRank upper := by
    rw [← units_lt_units_iff, hunits, units_wholeRank hn]
    exact Nat.mul_lt_mul_of_pos_right hupper hpos
  have hbetween : (units (wholeRank lower) + units (wholeRank n)) * 1 ≤ 2 * (c * 2 ^ unitExponent) ∧
      2 * (c * 2 ^ unitExponent) ≤ (units (wholeRank n) + units (wholeRank upper)) * 1 :=
    Rank.between_of_accepts hlowerRank hupperRank h
  rw [hlowerUnits, hunits, units_wholeRank hn, Nat.mul_one, Nat.mul_one, ← Nat.add_mul,
    ← Nat.add_mul, ← Nat.mul_assoc] at hbetween
  obtain ⟨hlow, hhigh⟩ := hbetween
  exact ⟨Nat.le_of_mul_le_mul_right hlow hpos, Nat.le_of_mul_le_mul_right hhigh hpos⟩

/-- The last whole number is the only one that another one is taken for. -/
theorem eq_or_of_accepts {c : Nat} (hpos : 0 < n) (hn : n ≤ 2 ^ 53)
    (h : Rank.accepts fractionBits (wholeRank n) (c * 2 ^ unitExponent) 1 = true) :
    c = n ∨ n = 2 ^ 53 ∧ c = n + 1 := by
  rcases Nat.lt_or_eq_of_le hn with hlt | rfl
  · have hbetween := between_of_accepts_wholeRank (Nat.sub_lt hpos Nat.one_pos)
      (Nat.lt_succ_self n) hn (units_wholeRank hlt) h
    exact .inl (by omega)
  · -- The next magnitude is two further on here.
    have hbetween := between_of_accepts_wholeRank (Nat.sub_lt hpos Nat.one_pos)
      (Nat.lt_add_of_pos_right (by decide : 0 < 2)) hn
      (units_wholeRank_of_even (by decide) (by decide)) h
    omega

section Digits

open Decimal

theorem integerDigits_wholeRank (hpos : 0 < n) (hn : n ≤ 2 ^ 53) :
    integerDigits (wholeRank n) = (Nat.toDigits 10 n).length := by
  have hunit : 0 < 2 ^ unitExponent := Nat.two_pow_pos unitExponent
  have hscaled : units (wholeRank n) * 10 ^ widestPlaces / 2 ^ unitExponent =
      n * 10 ^ widestPlaces := by
    rw [units_wholeRank hn, Nat.mul_right_comm, Nat.mul_div_cancel _ hunit]
  unfold integerDigits
  dsimp only
  rw [hscaled, toDigits_mul_ten_pow hpos, List.length_append, List.length_replicate]
  omega

theorem onGrid?_zero_wholeRank (tie : Tie) (hn : n ≤ 2 ^ 53) :
    onGrid? tie (wholeRank n) 0 = some n :=
  onGrid?_of_eq_mul (by simp [units_wholeRank hn])

/-- Tens, hundreds and so on are never taken for another whole number. -/
theorem eq_of_onGrid? {tie : Tie} {zeros coefficient : Nat} (hpos : 0 < n) (hn : n ≤ 2 ^ 53)
    (h : onGrid? tie (wholeRank n) zeros = some coefficient) : coefficient * 10 ^ zeros = n := by
  cases zeros with
  | zero =>
    obtain rfl := Option.some.inj ((onGrid?_zero_wholeRank tie hn).symm.trans h)
    simp
  | succ zeros =>
    have haccepts := accepts_of_onGrid? h
    have hscale : (-((zeros + 1 : Nat) : Int)).toNat = 0 := by omega
    have hvalue : coefficient * (2 ^ unitExponent * 10 ^ (zeros + 1)) =
        coefficient * 10 ^ (zeros + 1) * 2 ^ unitExponent := by
      rw [Nat.mul_comm (2 ^ unitExponent), Nat.mul_assoc]
    rw [Int.toNat_natCast, hscale, Nat.pow_zero, hvalue] at haccepts
    rcases eq_or_of_accepts hpos hn haccepts with heq | ⟨rfl, heq⟩
    · exact heq
    · rw [Nat.pow_succ, ← Nat.mul_assoc] at heq
      omega

theorem denotes_shortest_wholeRank (tie : Tie) (hpos : 0 < n) (hn : n ≤ 2 ^ 53) :
    (shortest tie (wholeRank n)).Denotes n := by
  have hdigits : (Nat.toDigits 10 n).length ≤ mostDigits := by
    rw [Nat.length_toDigits_le_iff (by decide) (by decide)]
    exact Nat.lt_of_le_of_lt hn (by decide)
  refine denotes_shortest (integerDigits_wholeRank hpos hn) Nat.length_toDigits_pos hdigits ?_ ?_
  · rw [onGrid?_zero_wholeRank tie hn]
    rfl
  · exact fun zeros coefficient => eq_of_onGrid? hpos hn

end Digits

theorem ofInt_eq (k : Int) : ofInt k = ofRank (k < 0) (wholeRank k.natAbs) :=
  rfl

theorem ofNat_eq_ofInt (n : Nat) : ofNat n = ofInt n := by
  have hsign : decide ((n : Int) < 0) = false := decide_eq_false (by omega)
  rw [ofInt_eq, hsign, Int.natAbs_natCast]
  rfl

theorem signed_wholeRank {negative : Bool} (h : n ≤ 2 ^ 53) :
    ofRank negative (wholeRank n) =
      signed negative (wholeRank n) (Nat.le_of_lt (wholeRank_lt_infinityRank h)) := by
  simp only [ofRank, Nat.min_eq_left (Nat.le_of_lt (wholeRank_lt_infinityRank h))]

theorem text_ofRank_wholeRank {negative : Bool} (hpos : 0 < n) (hn : n ≤ 2 ^ 53) :
    (ofRank negative (wholeRank n)).text =
      String.ofList (signText negative ++ Nat.toDigits 10 n) := by
  have hzero : wholeRank n ≠ 0 := by
    rw [← wholeRank_zero, Ne, wholeRank_inj hn (Nat.zero_le _)]
    omega
  have hdenotes := denotes_shortest_wholeRank .up hpos hn
  rw [signed_wholeRank hn, text, if_neg (Nat.ne_of_lt (wholeRank_lt_infinityRank hn)), if_neg hzero,
    Decimal.positional_of_denotes hdenotes hpos]

theorem text_ofInt {k : Int} (hk : k.natAbs ≤ 2 ^ 53) : (ofInt k).text = toString k := by
  by_cases hzero : k = 0
  · rw [hzero, ofInt_eq, Int.natAbs_zero, wholeRank_zero]
    rfl
  · rw [ofInt_eq, text_ofRank_wholeRank (Int.natAbs_pos.2 hzero) hk, ← toList_toString_int,
      String.ofList_toList]

theorem order?_ofInt {k : Int} (hk : k.natAbs ≤ 2 ^ 53) :
    (ofInt k).order? = some (if k < 0 then -(wholeRank k.natAbs : Int) else wholeRank k.natAbs) := by
  rw [ofInt_eq, signed_wholeRank hk, order?]
  simp only [decide_eq_true_eq]

theorem eq_ofInt_iff {k l : Int} (hk : k.natAbs ≤ 2 ^ 53) (hl : l.natAbs ≤ 2 ^ 53) :
    (ofInt k).eq (ofInt l) = true ↔ k = l := by
  have hinj := wholeRank_inj hk hl
  have hzero := wholeRank_inj hk (Nat.zero_le _)
  have hzero' := wholeRank_inj hl (Nat.zero_le _)
  rw [wholeRank_zero] at hzero hzero'
  rw [eq, compares, order?_ofInt hk, order?_ofInt hl]
  simp only [beq_iff_eq]
  split <;> split <;> omega

/-- The bound is sharp. -/
example : (ofInt (2 ^ 53 + 1)).eq (ofInt (2 ^ 53)) = true := by decide +kernel

end Phrasebook.Number
