import Phrasebook.Text.Blank

/-!
How a regular expression is to be read from some place on: with blanks that mean nothing or with
blanks that stand for themselves, by the characters of Unicode or by bytes. Flags in the expression
switch between them; the other flags concern what an expression matches and not how it is read.
-/
namespace Phrasebook.RegularExpression

structure Mode where
  /-- Blanks and remarks mean nothing. -/
  spaced : Bool := false
  /-- What is matched are characters of Unicode. Otherwise it is bytes, and a byte beyond ASCII by
  itself is no text. -/
  unicode : Bool := true

def skipRemarks (inRemark : Bool) : List Char → List Char
  | [] => []
  | char :: rest =>
    if inRemark then skipRemarks (char ≠ '\n') rest
    else if isBlank char then skipRemarks false rest
    else if char = '#' then skipRemarks true rest
    else char :: rest

def isFlags (flags : List Char) : Bool :=
  let known := ['i', 'm', 's', 'U', 'u', 'R', 'x', '-']
  flags.all known.contains && flags.eraseDups.length == flags.length && flags.getLast? != some '-'

def switched (flags : List Char) (letter : Char) (on : Bool) : Bool :=
  if flags.contains letter then (flags.takeWhile (· ≠ '-')).contains letter else on

namespace Mode

def skip (mode : Mode) (chars : List Char) : List Char :=
  if mode.spaced then skipRemarks false chars else chars

/-- What comes next: with blanks that mean nothing, the first character that is no blank, even if it
stands in a remark. -/
def glance (mode : Mode) (chars : List Char) : Option Char :=
  if mode.spaced then
    match skipBlanks chars with
    | '#' :: rest => (skipBlanks rest).head?
    | rest => rest.head?
  else chars.head?

def change? (mode : Mode) (flags : List Char) : Option Mode :=
  if isFlags flags then
    some { spaced := switched flags 'x' mode.spaced, unicode := switched flags 'u' mode.unicode }
  else none

end Mode

end Phrasebook.RegularExpression
