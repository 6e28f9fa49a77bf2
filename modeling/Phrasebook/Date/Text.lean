import Phrasebook.Date.Basic
import Phrasebook.Text.Blank
import Phrasebook.Text.Digits

/-!
Dates as text. The written form is `YYYY-MM-DD`, with a sign and as many digits as it takes for a
year outside 0 to 9999. Reading admits more: fewer digits, and white space in front of a number.
-/
namespace Phrasebook

/-- Four digits, or a sign and at least four digits for a year that four digits cannot show. -/
def yearText (year : Int) : List Char :=
  if 0 ≤ year ∧ year ≤ 9999 then paddedDigits 4 year.toNat
  else (if year < 0 then '-' else '+') :: paddedDigits 4 year.natAbs

/-- Without a sign a year has at most four digits. -/
def readYear (chars : List Char) : Option (Int × List Char) :=
  match skipBlanks chars with
  | '-' :: rest =>
    match digitRun rest.length rest with
    | ([], _) => none
    | (digits, rest) => some (-(ofDigits digits : Int), rest)
  | '+' :: rest =>
    match digitRun rest.length rest with
    | ([], _) => none
    | (digits, rest) => some (ofDigits digits, rest)
  | rest =>
    match digitRun 4 rest with
    | ([], _) => none
    | (digits, rest) => some (ofDigits digits, rest)

def readPart (chars : List Char) : Option (Nat × List Char) :=
  match digitRun 2 (skipBlanks chars) with
  | ([], _) => none
  | (digits, rest) => some (ofDigits digits, rest)

def readDash : List Char → Option (List Char)
  | '-' :: rest => some rest
  | _ => none

namespace Date

def isoText (date : Date) : String :=
  String.ofList <| yearText date.year ++ '-' :: (paddedDigits 2 date.month ++
    '-' :: paddedDigits 2 date.day)

def dottedText (date : Date) : String :=
  String.ofList <| paddedDigits 2 date.day ++ '.' :: (paddedDigits 2 date.month ++
    '.' :: yearText date.year)

def ofText? (text : String) : Option Date := do
  let (year, rest) ← readYear text.toList
  let (month, rest) ← readPart (← readDash rest)
  let (day, rest) ← readPart (← readDash rest)
  if rest.isEmpty then of? year month day else none

end Date

end Phrasebook
