import Phrasebook.RegularExpression.Mode
import Phrasebook.Text.Digits

/-!
The atoms of regular expressions: single characters, the shorthands for classes of characters, and
the places that an expression asks for. Most are written with a backslash.
-/
namespace Phrasebook.RegularExpression

inductive Atom where
  | literal (char : Char)
  /-- A character by its number, which is that of a byte where bytes are matched. -/
  | byte (char : Char)
  | dot
  /-- The digits, the blanks or the word characters, or all characters but those. -/
  | shorthand (negated : Bool)
  | category
  | edge
  /-- A place where a word starts or ends, or one where none does. -/
  | wordEdge
  deriving DecidableEq

namespace Atom

def isText (mode : Mode) : Atom → Bool
  | byte char => mode.unicode || char.toNat < 0x80
  | dot | category => mode.unicode
  | shorthand negated => mode.unicode || !negated
  | literal _ | edge | wordEdge => true

/-- Whether an atom may stand in a class. A class of bytes holds ASCII only. -/
def isMember (mode : Mode) : Atom → Bool
  | literal char | byte char => mode.unicode || char.toNat < 0x80
  | shorthand negated => mode.unicode || !negated
  | category => mode.unicode
  | dot | edge | wordEdge => false

def char? : Atom → Option Char
  | literal char | byte char => some char
  | _ => none

end Atom

def readCode (mode : Mode) : Nat → Nat → List Char → Option (Char × List Char)
  | 0, code, chars => if code.isValidChar then some (Char.ofNat code, chars) else none
  | _ + 1, _, [] => none
  | count + 1, code, char :: rest =>
    match hexValue? char with
    | some digit => readCode mode count (16 * code + digit) (mode.skip rest)
    | none => none

/-- Categories with a name of one letter: other characters, letters, marks, numbers, punctuation,
symbols and separators. -/
def isCategory (letter : Char) : Bool :=
  ['c', 'l', 'm', 'n', 'p', 's', 'z'].contains letter.toLower

def readEscape (mode : Mode) : List Char → Option (Atom × List Char)
  | [] => none
  | char :: rest =>
    let code (count : Nat) := readCode mode count 0 (mode.skip rest)
    match char with
    | 'x' => (code 2).map fun (char, rest) => (.byte char, rest)
    | 'u' => (code 4).map fun (char, rest) => (.literal char, rest)
    | 'U' => (code 8).map fun (char, rest) => (.literal char, rest)
    | 'p' | 'P' =>
      match mode.skip rest with
      | letter :: rest => if isCategory letter then some (.category, mode.skip rest) else none
      | [] => none
    | 'd' | 's' | 'w' => some (.shorthand false, rest)
    | 'D' | 'S' | 'W' => some (.shorthand true, rest)
    | 'A' | 'z' => some (.edge, rest)
    | 'b' | 'B' | '<' | '>' => some (.wordEdge, rest)
    | 'a' => some (.literal '\x07', rest)
    | 't' => some (.literal '\t', rest)
    | 'n' => some (.literal '\n', rest)
    | 'v' => some (.literal '\x0b', rest)
    | 'f' => some (.literal '\x0c', rest)
    | 'r' => some (.literal '\r', rest)
    | _ =>
      if char.toNat < 0x80 ∧ !char.isAlphanum then some (.literal char, rest) else none

end Phrasebook.RegularExpression
