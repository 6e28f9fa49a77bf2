import Phrasebook.Json.Basic
import Phrasebook.Number.Decimal
import Phrasebook.Text.Digits

/-!
Numerals in JSON. Whole numbers that fit 64 bits are exact. All others become floating-point
numbers in two steps: the leading digits are collected as far as they fit 64 bits, and the rounded
result is multiplied by or divided by a power of ten, so it may differ from the nearest number in
the last place. A number too large for that is refused.

A float is written with the fewest digits that read back, positionally from `10 ^ -5` to below
`10 ^ 16` and always with a point there, and otherwise with an exponent.
-/
namespace Phrasebook.Json

/-- Digits behind a number, as long as the result fits 64 bits, and the digits that do not fit. -/
def absorbDigits (value : Nat) : List Char → Nat × List Char
  | [] => (value, [])
  | digit :: rest =>
    let next := 10 * value + ofDigits [digit]
    if next < 2 ^ 64 then absorbDigits next rest else (value, digit :: rest)

def powerOfTen (exponent : Nat) : Number :=
  Number.ofNat (10 ^ exponent)

def largestPower : Nat := 308

def scaleByTen (x : Number) (exponent : Int) : Option Number :=
  if exponent.natAbs ≤ largestPower then
    if 0 ≤ exponent then
      let product := x.mul (powerOfTen exponent.natAbs)
      if product.isInfinite then none else some product
    else some (x.div (powerOfTen exponent.natAbs))
  else if x.eq (Number.zero false) then some x
  else if 0 ≤ exponent then none
  else scaleByTen (x.div (powerOfTen largestPower)) (exponent + largestPower)
termination_by (-exponent).toNat
decreasing_by
  simp only [largestPower] at *
  omega

def signedFloat (negative : Bool) (x : Number) : Json :=
  float (if negative then x.neg else x)

def ofParts? (negative : Bool) (significand : Nat) (exponent : Int) : Option Json :=
  (scaleByTen (Number.ofNat significand) exponent).map (signedFloat negative)

/-- Exponents beyond 32 bits are zero or out of range, whatever the digits in front of them. -/
def farthestExponent : Nat := 2 ^ 31 - 1

def readPower (negative : Bool) (significand : Nat) (exponent : Int) : List Char → Option Json
  | [] => ofParts? negative significand exponent
  | mark :: rest =>
    if mark = 'e' ∨ mark = 'E' then
      let (down, rest) := match rest with
        | '-' :: rest => (true, rest)
        | '+' :: rest => (false, rest)
        | _ => (false, rest)
      match digitRun rest.length rest with
      | ([], _) => none
      | (digits, []) =>
        let power := ofDigits digits
        if farthestExponent < power then
          if significand ≠ 0 ∧ !down then none
          else some (signedFloat negative (Number.zero false))
        else ofParts? negative significand (exponent + if down then -(power : Int) else power)
      | _ => none
    else none

/-- A whole number within 64 bits; the negative zero and what lies below are floats. -/
def wholeNumber (negative : Bool) (value : Nat) : Json :=
  if !negative then integer value
  else if value = 0 ∨ 2 ^ 63 < value then signedFloat true (Number.ofNat value)
  else integer (-value)

def ofNumeral? (chars : List Char) : Option Json :=
  let (negative, rest) := match chars with
    | '-' :: rest => (true, rest)
    | _ => (false, chars)
  let (whole, rest) := digitRun rest.length rest
  let leadingZero := whole.head? == some '0' && 1 < whole.length
  if whole.isEmpty || leadingZero then none
  else
    let (significand, left) := absorbDigits 0 whole
    match rest with
    | '.' :: rest =>
      match digitRun rest.length rest with
      | ([], _) => none
      | (fraction, rest) =>
        let (significand, ignored) := absorbDigits significand fraction
        let places : Int := fraction.length - ignored.length
        readPower negative significand (left.length - places) rest
    | [] =>
      if left.isEmpty then some (wholeNumber negative significand)
      else ofParts? negative significand left.length
    | _ => readPower negative significand left.length rest

def isPositionalScale (scale : Int) : Bool :=
  -5 ≤ scale && scale ≤ 15

def decimalText (decimal : Decimal) : List Char :=
  if isPositionalScale decimal.scale then
    if decimal.exponent < 0 then decimal.positional else decimal.positional ++ ['.', '0']
  else decimal.scientific

/-- There is no JSON numeral for an infinite number or for no number. -/
def numberText : Number → List Char
  | .nan _ => "null".toList
  | .signed negative rank _ =>
    if rank = infinityRank then "null".toList
    else
      Number.signText negative ++
        if rank = 0 then ['0', '.', '0'] else decimalText (Decimal.shortest .even rank)

end Phrasebook.Json
