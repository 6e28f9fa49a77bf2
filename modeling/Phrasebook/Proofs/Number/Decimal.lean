import Phrasebook.Number.Decimal
import Phrasebook.Proofs.Number.Rank

/-!
Decimals that are whole numbers. Such a one is written with its digits alone
(`positional_of_denotes`), and zeros at its end may move into the exponent
(`Denotes.reduced`). The search for the shortest decimal takes a number on the grid
as it is (`onGrid?_of_eq_mul`), and what it finds reads back (`accepts_of_onGrid?`); so it finds a
whole number if no coarser grid has another one that reads back (`denotes_shortest`).
-/
namespace Phrasebook

theorem toDigits_mul_ten_pow {n : Nat} (hn : 0 < n) (zeros : Nat) :
    Nat.toDigits 10 (n * 10 ^ zeros) = Nat.toDigits 10 n ++ List.replicate zeros '0' := by
  induction zeros with
  | zero => simp
  | succ zeros ih =>
    have hpos : 0 < n * 10 ^ zeros := Nat.mul_pos hn (Nat.pow_pos (by decide))
    have hnext : n * 10 ^ (zeros + 1) = 10 * (n * 10 ^ zeros) + 0 := by
      rw [Nat.pow_succ, ← Nat.mul_assoc, Nat.mul_comm, Nat.add_zero]
    rw [hnext, ← Nat.toDigits_append_toDigits (by decide) hpos (by decide), ih,
      List.replicate_succ', List.append_assoc]
    rfl

theorem toList_toString_int (k : Int) :
    (toString k).toList = Number.signText (k < 0) ++ Nat.toDigits 10 k.natAbs := by
  cases k with
  | ofNat n =>
    have hsign : ¬ Int.ofNat n < 0 := Int.not_lt_of_ge (Int.natCast_nonneg n)
    rw [decide_eq_false hsign]
    exact Nat.toList_repr
  | negSucc n =>
    have hrepr : toString (Int.negSucc n) = "-" ++ (n + 1).repr := rfl
    rw [decide_eq_true (Int.negSucc_lt_zero n), hrepr, String.toList_append, Nat.toList_repr]
    rfl

theorem exists_of_findSome?_range {α : Type} {f : Nat → Option α} {count index : Nat}
    (hindex : index < count) (hsome : (f index).isSome = true) :
    ∃ first ≤ index, ∃ found, f first = some found ∧
      (List.range count).findSome? f = some found := by
  cases hfound : (List.range count).findSome? f with
  | none =>
    rw [List.findSome?_eq_none_iff] at hfound
    rw [hfound index (List.mem_range.2 hindex)] at hsome
    contradiction
  | some found =>
    obtain ⟨front, first, back, hrange, hfirst, hfront⟩ := List.findSome?_eq_some_iff.1 hfound
    refine ⟨first, ?_, found, hfirst, rfl⟩
    have hmem : index ∈ front ++ first :: back := hrange ▸ List.mem_range.2 hindex
    have hsorted : (front ++ first :: back).Pairwise (· < ·) := hrange ▸ List.pairwise_lt_range
    rcases List.mem_append.1 hmem with hmem | hmem
    · rw [hfront index hmem] at hsome
      contradiction
    · rcases List.mem_cons.1 hmem with rfl | hmem
      · exact Nat.le_refl index
      · have hback := (List.pairwise_cons.1 (List.pairwise_append.1 hsorted).2.1).1
        exact Nat.le_of_lt (hback index hmem)

namespace Decimal

/-- The decimal is this whole number, and has no digits behind a point. -/
def Denotes (decimal : Decimal) (n : Nat) : Prop :=
  ∃ zeros : Nat, decimal.exponent = zeros ∧ decimal.coefficient * 10 ^ zeros = n

variable {decimal : Decimal} {n rank coefficient : Nat} {exponent : Int} {tie : Tie}

theorem Denotes.reduced (h : decimal.Denotes n) : decimal.reduced.Denotes n := by
  fun_induction Decimal.reduced decimal with
  | case1 decimal hzero ih =>
    obtain ⟨zeros, hexponent, hvalue⟩ := h
    have htenth : decimal.coefficient / 10 * 10 = decimal.coefficient :=
      Nat.div_mul_cancel (Nat.dvd_of_mod_eq_zero hzero.2)
    refine ih ⟨zeros + 1, ?_, ?_⟩
    · rw [hexponent]
      rfl
    · rw [Nat.pow_succ', ← Nat.mul_assoc, htenth, hvalue]
  | case2 => exact h

theorem positional_of_denotes (h : decimal.Denotes n) (hn : 0 < n) :
    decimal.positional = Nat.toDigits 10 n := by
  obtain ⟨zeros, hexponent, rfl⟩ := h
  have hpos : 0 < decimal.coefficient := Nat.pos_of_mul_pos_right hn
  unfold positional
  rw [hexponent, toDigits_mul_ten_pow hpos]

theorem onGrid?_of_eq_mul
    (h : Number.units rank * 10 ^ (-exponent).toNat =
      coefficient * (2 ^ unitExponent * 10 ^ exponent.toNat)) :
    onGrid? tie rank exponent = some coefficient := by
  have hgrid : 0 < 2 ^ unitExponent * 10 ^ exponent.toNat :=
    Nat.mul_pos (Nat.two_pow_pos _) (Nat.pow_pos (by decide))
  have haccepts : Rank.accepts fractionBits rank
      (Number.units rank * 10 ^ (-exponent).toNat) (10 ^ (-exponent).toNat) = true :=
    Rank.accepts_self (Nat.pow_pos (by decide))
  rw [h] at haccepts
  unfold onGrid?
  dsimp only
  rw [h, Nat.mul_div_cancel _ hgrid, Nat.mul_mod_left, if_neg (by omega), List.find?_cons,
    haccepts]

theorem accepts_of_onGrid? (h : onGrid? tie rank exponent = some coefficient) :
    Rank.accepts fractionBits rank (coefficient * (2 ^ unitExponent * 10 ^ exponent.toNat))
      (10 ^ (-exponent).toNat) = true := by
  unfold onGrid? at h
  have hreads := List.find?_some h
  exact hreads

theorem denotes_shortest {places : Nat} (hplaces : integerDigits rank = places)
    (hpos : 0 < places) (hmost : places ≤ mostDigits)
    (hones : (onGrid? tie rank 0).isSome = true)
    (hgrid : ∀ (zeros coefficient : Nat), onGrid? tie rank zeros = some coefficient →
      coefficient * 10 ^ zeros = n) :
    (shortest tie rank).Denotes n := by
  have hlast : ((places : Int) - ((places - 1 : Nat) + 1)) = 0 := by omega
  obtain ⟨extra, hextra, found, hfound, hshortest⟩ := exists_of_findSome?_range
    (f := fun (extra : Nat) => (onGrid? tie rank (places - (extra + 1))).map
      fun coefficient => (⟨coefficient, places - (extra + 1)⟩ : Decimal))
    (Nat.lt_of_lt_of_le (Nat.sub_lt hpos Nat.one_pos) hmost) (by simpa [hlast] using hones)
  obtain ⟨coefficient, hcoefficient, rfl⟩ := Option.map_eq_some_iff.1 hfound
  have hzeros : (places : Int) - (extra + 1) = (places - (extra + 1) : Nat) := by omega
  unfold shortest
  rw [hplaces]
  dsimp only
  rw [hshortest, Option.getD_some]
  rw [hzeros] at hcoefficient
  exact Denotes.reduced ⟨_, hzeros, hgrid _ _ hcoefficient⟩

end Decimal

end Phrasebook
