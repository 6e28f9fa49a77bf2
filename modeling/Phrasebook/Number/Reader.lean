import Phrasebook.Number.Decimal
import Phrasebook.Text.Digits

/-!
Numbers from decimal text: a sign, digits with an optional point, an optional exponent; or one of
the words for infinity and for no number, in any case.
-/
namespace Phrasebook

namespace Decimal

/-- Beyond this power of ten in either direction every magnitude is infinite or zero. -/
def farthestScale : Int := 400

def nearestRank (w unit : Nat) (decimal : Decimal) (infinite : Nat) : Nat :=
  if decimal.coefficient = 0 ∨ decimal.scale < -farthestScale then 0
  else if farthestScale < decimal.scale then infinite
  else
    let n := decimal.coefficient * 10 ^ decimal.exponent.toNat * 2 ^ unit
    min (Rank.nearest w n (10 ^ (-decimal.exponent).toNat)) infinite

def readExponent : List Char → Option Int
  | [] => some 0
  | mark :: rest =>
    if mark = 'e' ∨ mark = 'E' then
      let (negative, rest) := match rest with
        | '-' :: rest => (true, rest)
        | '+' :: rest => (false, rest)
        | _ => (false, rest)
      match digitRun rest.length rest with
      | ([], _) => none
      | (digits, []) => some (if negative then -(ofDigits digits : Int) else ofDigits digits)
      | _ => none
    else none

def ofChars? (chars : List Char) : Option Decimal :=
  let (whole, rest) := digitRun chars.length chars
  let (fraction, rest) := match rest with
    | '.' :: rest => digitRun rest.length rest
    | _ => ([], rest)
  if whole.isEmpty && fraction.isEmpty then none
  else (readExponent rest).map fun exponent =>
    ⟨ofDigits (whole ++ fraction), exponent - fraction.length⟩

end Decimal

namespace Number

/-- The single precision magnitudes: 23 fraction bits, units of `2 ^ -149`. -/
def singleFractionBits : Nat := 23

def singleUnitExponent : Nat := 149

def singleInfinityRank : Nat := 255 * 2 ^ 23

def ofDecimal (negative : Bool) (decimal : Decimal) : Number :=
  ofRank negative (decimal.nearestRank fractionBits unitExponent infinityRank)

/-- Rounded to single precision, then widened, which changes nothing more. -/
def ofDecimalSingle (negative : Bool) (decimal : Decimal) : Number :=
  let rank := decimal.nearestRank singleFractionBits singleUnitExponent singleInfinityRank
  if rank = singleInfinityRank then infinity negative
  else ofRatio negative (Rank.units singleFractionBits rank) (2 ^ singleUnitExponent)

def readWith (round : Bool → Decimal → Number) (text : String) : Option Number :=
  let (negative, rest) := match text.toList with
    | '-' :: rest => (true, rest)
    | '+' :: rest => (false, rest)
    | rest => (false, rest)
  let word := String.ofList (rest.map Char.toLower)
  if word = "nan" then some (nan negative)
  else if word = "inf" ∨ word = "infinity" then some (infinity negative)
  else (Decimal.ofChars? rest).map (round negative)

def ofText? (text : String) : Option Number :=
  readWith ofDecimal text

def ofTextSingle? (text : String) : Option Number :=
  readWith ofDecimalSingle text

end Number

end Phrasebook
