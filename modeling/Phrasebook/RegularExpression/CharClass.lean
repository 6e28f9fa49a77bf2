import Phrasebook.RegularExpression.Atom
import Phrasebook.RegularExpression.Height

/-!
Classes of characters in brackets: characters and ranges, other classes, and what two lists of them
have in common or not. Reading a class tells how deep it is nested and where it ends.
-/
namespace Phrasebook.RegularExpression

structure CharClass where
  /-- Nothing but hyphens has been read. -/
  atStart : Bool := true
  /-- The height of what stands in front of the last operator. -/
  left : Option Nat := none
  members : List Nat := []

namespace CharClass

def push (cls : CharClass) (height : Nat) : CharClass :=
  { cls with atStart := false, members := height :: cls.members }

def innerHeight (cls : CharClass) : Nat :=
  match cls.left with
  | some left => joinedHeight [left, joinedHeight cls.members]
  | none => joinedHeight cls.members

def height (cls : CharClass) : Nat :=
  cls.innerHeight + 1

def operator (cls : CharClass) : CharClass :=
  { atStart := false, left := some cls.innerHeight, members := [] }

end CharClass

/-- What follows an opening bracket and the mark that negates a class. A class of bytes cannot be
negated, since the bytes outside of it are not all text. -/
def readOpening (mode : Mode) (chars : List Char) : Option (List Char) :=
  match mode.skip chars with
  | '^' :: rest => if mode.unicode then some rest else none
  | rest => some rest

def readNamedClass (chars : List Char) : Option (Bool × List Char) :=
  match chars with
  | ':' :: chars =>
    let (negated, chars) := match chars with
      | '^' :: rest => (true, rest)
      | _ => (false, chars)
    let name := chars.takeWhile (· ≠ ':')
    let known := [
      "alnum", "alpha", "ascii", "blank", "cntrl", "digit", "graph", "lower", "print", "punct",
      "space", "upper", "word", "xdigit"]
    match chars.drop name.length with
    | ':' :: ']' :: rest =>
      if known.contains (String.ofList name) then some (negated, rest) else none
    | _ => none
  | _ => none

def readMemberAtom (mode : Mode) : List Char → Option (Atom × List Char)
  | [] => none
  | '\\' :: rest => readEscape mode rest
  | char :: rest => some (.literal char, rest)

def isRange (mode : Mode) (first last : Atom) : Bool :=
  match first.char?, last.char? with
  | some low, some high => first.isMember mode && last.isMember mode && low ≤ high
  | _, _ => false

/-- What follows a single member or a range. A hyphen that is followed by another one or by the
closing bracket makes no range. -/
def readMember (mode : Mode) (chars : List Char) : Option (List Char) := do
  let (first, rest) ← readMemberAtom mode chars
  let single := if first.isMember mode then some rest else none
  match mode.skip rest with
  | '-' :: behind =>
    match mode.glance behind with
    | some ']' | some '-' => single
    | _ =>
      let (last, rest) ← readMemberAtom mode (mode.skip behind)
      if isRange mode first last then some rest else none
  | _ => single

/-- The height of a class and what follows it, with the classes around it that are still open. The
first argument bounds the recursion: one for each character is enough. -/
def readMembers (mode : Mode) :
    Nat → CharClass → List CharClass → List Char → Option (Nat × List Char)
  | 0, _, _, _ => none
  | fuel + 1, cls, outer, chars =>
    match mode.skip chars with
    | [] => none
    | char :: rest =>
      if cls.atStart && (char == '-' || char == ']' && cls.members.isEmpty) then
        readMembers mode fuel { cls.push 0 with atStart := char == '-' } outer rest
      else
        match char, rest with
        | '[', _ =>
          match readNamedClass rest with
          | some (negated, rest) =>
            if negated && !mode.unicode then none
            else readMembers mode fuel (cls.push 0) outer rest
          | none =>
            match readOpening mode rest with
            | some rest => readMembers mode fuel {} (cls :: outer) rest
            | none => none
        | ']', _ =>
          match outer with
          | [] => some (cls.height, rest)
          | parent :: outer => readMembers mode fuel (parent.push cls.height) outer rest
        | '&', '&' :: rest => readMembers mode fuel cls.operator outer rest
        | '-', '-' :: rest => readMembers mode fuel cls.operator outer rest
        | '~', '~' :: rest => readMembers mode fuel cls.operator outer rest
        | _, _ =>
          match readMember mode (char :: rest) with
          | some rest => readMembers mode fuel (cls.push 0) outer rest
          | none => none

def readClass (mode : Mode) (chars : List Char) : Option (Nat × List Char) :=
  (readOpening mode chars).bind fun rest => readMembers mode (rest.length + 1) {} [] rest

end Phrasebook.RegularExpression
