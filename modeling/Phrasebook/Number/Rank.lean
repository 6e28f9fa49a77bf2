/-!
Binary floating-point magnitudes by rank. With `w` fraction bits the magnitudes `0 < m₁ < m₂ < …`
are numbered from 0; the rank is at the same time the bit pattern of the magnitude. All values are
whole multiples of the smallest one, the unit, so they are natural numbers here.

The first `2 ^ (w + 1)` magnitudes are one unit apart, and after each further `2 ^ w` the distance
doubles.
-/
namespace Phrasebook

-- Powers of natural numbers are those of the core library, whatever else is imported.
@[default_instance 20000]
scoped instance (priority := 2000) natPow : Pow Nat Nat :=
  instPowNat

namespace Rank

def doublings (w rank : Nat) : Nat :=
  rank / 2 ^ w - 1

def significand (w rank : Nat) : Nat :=
  rank - doublings w rank * 2 ^ w

def units (w rank : Nat) : Nat :=
  significand w rank * 2 ^ doublings w rank

/-- The rank nearest to `n / d` units; of two equally near ones the even one. -/
def nearest (w n d : Nat) : Nat :=
  let shift := Nat.log2 (n / d) - w
  let step := d * 2 ^ shift
  let below := n / step
  let rest := n % step
  let up := step < 2 * rest ∨ (2 * rest = step ∧ below % 2 = 1)
  shift * 2 ^ w + below + if up then 1 else 0

theorem doublings_of_lt {w rank : Nat} (h : rank < 2 ^ (w + 1)) : doublings w rank = 0 := by
  have hpos : 0 < 2 ^ w := Nat.two_pow_pos w
  have : rank / 2 ^ w < 2 := by
    rw [Nat.div_lt_iff_lt_mul hpos]
    omega
  simp only [doublings]
  omega

theorem units_of_lt {w rank : Nat} (h : rank < 2 ^ (w + 1)) : units w rank = rank := by
  simp [units, significand, doublings_of_lt h]

/-- Twice the middle between a magnitude and the one below it. -/
def lowerMiddle (w rank : Nat) : Nat :=
  units w (rank - 1) + units w rank

def upperMiddle (w rank : Nat) : Nat :=
  units w rank + units w (rank + 1)

/-- Whether `n / d` units round to a rank: they lie between the two middles, which belong to the
even one of the two ranks that they part. -/
def accepts (w rank n d : Nat) : Bool :=
  let low := lowerMiddle w rank * d
  let high := upperMiddle w rank * d
  if rank % 2 = 0 then low ≤ 2 * n && 2 * n ≤ high else low < 2 * n && 2 * n < high

end Rank

end Phrasebook
