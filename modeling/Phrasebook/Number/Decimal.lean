import Phrasebook.Number.Basic

/-!
Decimal numbers `coefficient · 10 ^ exponent`, and the shortest one that reads back as a given
magnitude. For one digit, two digits, and so on, the two neighbours of the value with that many
digits are tried; the first number of digits for which one of them reads back is taken, and of two
such neighbours the nearer.
-/
namespace Phrasebook

structure Decimal where
  coefficient : Nat
  exponent : Int
  deriving DecidableEq

inductive Tie where
  | up
  | even
  deriving DecidableEq

namespace Decimal

def reduced (decimal : Decimal) : Decimal :=
  if h : 0 < decimal.coefficient ∧ decimal.coefficient % 10 = 0 then
    reduced ⟨decimal.coefficient / 10, decimal.exponent + 1⟩
  else decimal
termination_by decimal.coefficient
decreasing_by exact Nat.div_lt_self h.1 (by decide)

/-- A positive value below `10 ^ 310` is told from zero when it is this often multiplied by ten. -/
def widestPlaces : Nat := 400

/-- The number of digits before the point; for a fraction, minus that of the zeros behind it. -/
def integerDigits (rank : Nat) : Int :=
  let scaled := Number.units rank * 10 ^ widestPlaces / 2 ^ unitExponent
  (Nat.toDigits 10 scaled).length - (widestPlaces : Int)

/-- The multiple of `10 ^ exponent` that a magnitude is shown as, if one of the two next to it
reads back. -/
def onGrid? (tie : Tie) (rank : Nat) (exponent : Int) : Option Nat :=
  let grid := 2 ^ unitExponent * 10 ^ exponent.toNat
  let scale := 10 ^ (-exponent).toNat
  let value := Number.units rank * scale
  let below := value / grid
  let rest := 2 * (value % grid)
  let nearerAbove := grid < rest ∨ (rest = grid ∧ (tie = .up ∨ below % 2 = 1))
  let readsBack (coefficient : Nat) :=
    Rank.accepts fractionBits rank (coefficient * grid) scale
  let candidates := if nearerAbove then [below + 1, below] else [below, below + 1]
  candidates.find? readsBack

def mostDigits : Nat := 17

def shortest (tie : Tie) (rank : Nat) : Decimal :=
  let places := integerDigits rank
  let found? := (List.range mostDigits).findSome? fun (extra : Nat) =>
    let exponent := places - (extra + 1)
    (onGrid? tie rank exponent).map fun coefficient => (⟨coefficient, exponent⟩ : Decimal)
  (found?.getD ⟨0, 0⟩).reduced

def positional (decimal : Decimal) : List Char :=
  let digits := Nat.toDigits 10 decimal.coefficient
  match decimal.exponent with
  | .ofNat zeros => digits ++ List.replicate zeros '0'
  | .negSucc places =>
    let places := places + 1
    if places < digits.length then
      digits.take (digits.length - places) ++ '.' :: digits.drop (digits.length - places)
    else '0' :: '.' :: (List.replicate (places - digits.length) '0' ++ digits)

def scale (decimal : Decimal) : Int :=
  (Nat.toDigits 10 decimal.coefficient).length + decimal.exponent - 1

def scientific (decimal : Decimal) : List Char :=
  let power := decimal.scale
  let sign := if power < 0 then '-' else '+'
  let suffix := 'e' :: sign :: Nat.toDigits 10 power.natAbs
  match Nat.toDigits 10 decimal.coefficient with
  | first :: second :: rest => first :: '.' :: second :: rest ++ suffix
  | digits => digits ++ suffix

end Decimal

namespace Number

def signText (negative : Bool) : List Char :=
  if negative then ['-'] else []

/-- The shortest digits that read back, never with an exponent. -/
def text : Number → String
  | nan _ => "NaN"
  | signed negative rank _ =>
    String.ofList <| signText negative ++
      if rank = infinityRank then ['i', 'n', 'f']
      else if rank = 0 then ['0']
      else (Decimal.shortest .up rank).positional

end Number

end Phrasebook
