import Phrasebook.Number.Rank

/-!
Numbers in double precision: a sign and a magnitude of 52 fraction bits, or no number at all.
Every operation is exact arithmetic followed by one rounding to the nearest magnitude.
-/
namespace Phrasebook

def fractionBits : Nat := 52

/-- The smallest positive magnitude is `2 ^ -unitExponent`. -/
def unitExponent : Nat := 1074

def infinityRank : Nat := 2047 * 2 ^ 52

inductive Number where
  /-- No number; it has a sign nonetheless, which only the bits show. -/
  | nan (negative : Bool)
  | signed (negative : Bool) (rank : Nat) (isRank : rank ≤ infinityRank)
  deriving DecidableEq

namespace Number

def ofRank (negative : Bool) (rank : Nat) : Number :=
  signed negative (min rank infinityRank) (Nat.min_le_right ..)

def infinity (negative : Bool) : Number :=
  ofRank negative infinityRank

def zero (negative : Bool) : Number :=
  ofRank negative 0

def ofRatio (negative : Bool) (n d : Nat) : Number :=
  ofRank negative (Rank.nearest fractionBits (n * 2 ^ unitExponent) d)

def ofNat (n : Nat) : Number :=
  ofRatio false n 1

def ofInt (n : Int) : Number :=
  ofRatio (n < 0) n.natAbs 1

def neg : Number → Number
  | nan negative => nan !negative
  | signed negative rank isRank => signed (!negative) rank isRank

def isNaN : Number → Bool
  | nan _ => true
  | signed .. => false

def isInfinite : Number → Bool
  | nan _ => false
  | signed _ rank _ => rank == infinityRank

def units (rank : Nat) : Nat :=
  Rank.units fractionBits rank

def mul : Number → Number → Number
  | signed negative₁ rank₁ _, signed negative₂ rank₂ _ =>
    let negative := negative₁ != negative₂
    if rank₁ = infinityRank ∨ rank₂ = infinityRank then
      if rank₁ = 0 ∨ rank₂ = 0 then nan false else infinity negative
    else ofRatio negative (units rank₁ * units rank₂) (2 ^ (2 * unitExponent))
  | _, _ => nan false

def div : Number → Number → Number
  | signed negative₁ rank₁ _, signed negative₂ rank₂ _ =>
    let negative := negative₁ != negative₂
    if rank₁ = infinityRank then
      if rank₂ = infinityRank then nan false else infinity negative
    else if rank₂ = infinityRank then zero negative
    else if rank₂ = 0 then
      if rank₁ = 0 then nan false else infinity negative
    else ofRatio negative (units rank₁) (units rank₂)
  | _, _ => nan false

/-- The place of a number on the line; both zeros have the same. -/
def order? : Number → Option Int
  | nan _ => none
  | signed negative rank _ => some (if negative then -rank else rank)

def compares (relation : Int → Int → Bool) (x y : Number) : Bool :=
  match x.order?, y.order? with
  | some a, some b => relation a b
  | _, _ => false

def lt (x y : Number) : Bool :=
  compares (· < ·) x y

def eq (x y : Number) : Bool :=
  compares (· == ·) x y

def signBit (negative : Bool) : Nat :=
  if negative then 2 ^ 63 else 0

/-- The 64 bits: sign, exponent and fraction, in which the magnitude stands as its rank. -/
def bits : Number → Nat
  | nan negative => signBit negative + infinityRank + 2 ^ 51
  | signed negative rank _ => signBit negative + rank

end Number

end Phrasebook
