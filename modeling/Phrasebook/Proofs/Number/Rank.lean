import Mathlib.Order.Monotone.Basic
import Phrasebook.Number.Rank

/-!
Magnitudes grow with their rank (`strictMono_units`). A magnitude is the nearest one to its own
value (`units_nearest`). What reads back as a magnitude lies between the middles to any two others
on either side of it (`between_of_accepts`).
-/
namespace Phrasebook.Rank

variable {w rank n d : Nat}

theorem units_of_le {fraction : Nat} (h : fraction ≤ 2 ^ w) (doubled : Nat) :
    units w ((doubled + 1) * 2 ^ w + fraction) = (2 ^ w + fraction) * 2 ^ doubled := by
  have hpos : 0 < 2 ^ w := Nat.two_pow_pos w
  rcases Nat.lt_or_eq_of_le h with hlt | rfl
  · have hdoublings : doublings w ((doubled + 1) * 2 ^ w + fraction) = doubled := by
      rw [doublings, Nat.mul_comm, Nat.mul_add_div hpos, Nat.div_eq_of_lt hlt]
      rfl
    rw [units, significand, hdoublings, Nat.succ_mul]
    congr 1
    omega
  · have hrank : (doubled + 1) * 2 ^ w + 2 ^ w = (doubled + 2) * 2 ^ w := (Nat.succ_mul _ _).symm
    have hdoublings : doublings w ((doubled + 2) * 2 ^ w) = doubled + 1 := by
      rw [doublings, Nat.mul_div_cancel _ hpos]
      rfl
    rw [hrank, units, significand, hdoublings, Nat.succ_mul (doubled + 1),
      Nat.add_sub_cancel_left, Nat.pow_succ, Nat.mul_comm (2 ^ doubled), ← Nat.mul_assoc,
      Nat.mul_two]

theorem exists_of_two_pow_le (h : 2 ^ w ≤ rank) :
    ∃ doubled fraction, fraction < 2 ^ w ∧ rank = (doubled + 1) * 2 ^ w + fraction := by
  have hpos : 0 < 2 ^ w := Nat.two_pow_pos w
  refine ⟨rank / 2 ^ w - 1, rank % 2 ^ w, Nat.mod_lt _ hpos, ?_⟩
  rw [Nat.sub_add_cancel (Nat.div_pos h hpos), Nat.mul_comm, Nat.div_add_mod]

theorem units_lt_units_succ (w rank : Nat) : units w rank < units w (rank + 1) := by
  by_cases h : rank < 2 ^ w
  · have hdouble : 2 ^ (w + 1) = 2 ^ w + 2 ^ w := Nat.two_pow_succ w
    rw [units_of_lt (by omega), units_of_lt (by omega)]
    exact Nat.lt_succ_self rank
  · obtain ⟨doubled, fraction, hfraction, rfl⟩ := exists_of_two_pow_le (Nat.le_of_not_lt h)
    rw [Nat.add_assoc, units_of_le (Nat.le_of_lt hfraction), units_of_le hfraction]
    exact Nat.mul_lt_mul_of_pos_right (by omega) (Nat.two_pow_pos doubled)

theorem strictMono_units (w : Nat) : StrictMono (units w) :=
  strictMono_nat_of_lt_succ (units_lt_units_succ w)

theorem nearest_of_dvd (h : 2 ^ (Nat.log2 n - w) ∣ n) :
    nearest w n 1 = (Nat.log2 n - w) * 2 ^ w + n / 2 ^ (Nat.log2 n - w) := by
  have hpos : 0 < 2 ^ (Nat.log2 n - w) := Nat.two_pow_pos _
  simp only [nearest, Nat.div_one, Nat.one_mul, Nat.mod_eq_zero_of_dvd h]
  rw [if_neg (by omega), Nat.add_zero]

/-- A value with few enough binary digits between its first one and its last is a magnitude. -/
theorem units_nearest (h : 2 ^ (Nat.log2 n - w) ∣ n) : units w (nearest w n 1) = n := by
  rw [nearest_of_dvd h]
  by_cases hlog : Nat.log2 n ≤ w
  · have hlt : n < 2 ^ (w + 1) :=
      Nat.lt_of_lt_of_le Nat.lt_log2_self (Nat.pow_le_pow_right (by decide) (by omega))
    rw [Nat.sub_eq_zero_of_le hlog, Nat.zero_mul, Nat.zero_add, Nat.pow_zero, Nat.div_one,
      units_of_lt hlt]
  · obtain ⟨shift, hshift⟩ : ∃ shift, Nat.log2 n = shift + w := ⟨Nat.log2 n - w, by omega⟩
    have hne : n ≠ 0 := by
      rintro rfl
      simp at hlog
    have hlow := Nat.log2_self_le hne
    have hhigh : n < 2 ^ (Nat.log2 n + 1) := Nat.lt_log2_self
    rw [hshift, Nat.add_sub_cancel] at h ⊢
    obtain ⟨leading, rfl⟩ := h
    have hpos : 0 < 2 ^ shift := Nat.two_pow_pos shift
    rw [hshift, Nat.pow_add] at hlow
    rw [hshift, Nat.add_assoc, Nat.pow_add, Nat.two_pow_succ] at hhigh
    have hleading : 2 ^ w ≤ leading := Nat.le_of_mul_le_mul_left hlow hpos
    have hleading' : leading < 2 ^ w + 2 ^ w := Nat.lt_of_mul_lt_mul_left hhigh
    have hrank : shift * 2 ^ w + leading = (shift + 1) * 2 ^ w + (leading - 2 ^ w) := by
      rw [Nat.succ_mul]
      omega
    rw [Nat.mul_div_cancel_left _ hpos, hrank, units_of_le (by omega), Nat.mul_comm]
    congr 1
    omega

theorem units_nearest_mul_two_pow {significand : Nat} (h : significand < 2 ^ (w + 1))
    (zeros : Nat) :
    units w (nearest w (significand * 2 ^ zeros) 1) = significand * 2 ^ zeros := by
  apply units_nearest
  by_cases hzero : significand = 0
  · simp [hzero]
  · have hne : significand * 2 ^ zeros ≠ 0 :=
      Nat.mul_ne_zero hzero (Nat.ne_of_gt (Nat.two_pow_pos zeros))
    have hlog : Nat.log2 (significand * 2 ^ zeros) < w + 1 + zeros := by
      rw [Nat.log2_lt hne, Nat.pow_add]
      exact Nat.mul_lt_mul_of_pos_right h (Nat.two_pow_pos zeros)
    have hle : Nat.log2 (significand * 2 ^ zeros) - w ≤ zeros := by omega
    exact Nat.dvd_trans (Nat.pow_dvd_pow 2 hle) (Nat.dvd_mul_left _ _)

theorem accepts_self (hd : 0 < d) : accepts w rank (units w rank * d) d = true := by
  have hbelow : units w (rank - 1) ≤ units w rank := (strictMono_units w).monotone (Nat.sub_le _ _)
  have habove : units w rank < units w (rank + 1) := units_lt_units_succ w rank
  have htwice : 2 * (units w rank * d) = (units w rank + units w rank) * d := by
    rw [← Nat.mul_assoc, Nat.two_mul]
  unfold accepts lowerMiddle upperMiddle
  dsimp only
  rw [htwice]
  split
  · simp only [Bool.and_eq_true, decide_eq_true_eq]
    exact ⟨Nat.mul_le_mul_right d (by omega), Nat.mul_le_mul_right d (by omega)⟩
  · next hodd =>
    have hbelow' : units w (rank - 1) < units w rank := strictMono_units w (by omega)
    simp only [Bool.and_eq_true, decide_eq_true_eq]
    exact ⟨Nat.mul_lt_mul_of_pos_right (by omega) hd, Nat.mul_lt_mul_of_pos_right (by omega) hd⟩

theorem between_of_accepts {lower upper : Nat} (hlower : lower < rank) (hupper : rank < upper)
    (h : accepts w rank n d = true) :
    (units w lower + units w rank) * d ≤ 2 * n ∧ 2 * n ≤ (units w rank + units w upper) * d := by
  have hbelow : units w lower ≤ units w (rank - 1) := (strictMono_units w).monotone (by omega)
  have habove : units w (rank + 1) ≤ units w upper := (strictMono_units w).monotone hupper
  have hmiddles : lowerMiddle w rank * d ≤ 2 * n ∧ 2 * n ≤ upperMiddle w rank * d := by
    unfold accepts at h
    dsimp only at h
    split at h
    all_goals
      simp only [Bool.and_eq_true, decide_eq_true_eq] at h
      omega
  unfold lowerMiddle upperMiddle at hmiddles
  exact ⟨Nat.le_trans (Nat.mul_le_mul_right d (by omega)) hmiddles.1,
    Nat.le_trans hmiddles.2 (Nat.mul_le_mul_right d (by omega))⟩

end Phrasebook.Rank
