import Phrasebook.RegularExpression.CharClass
import Phrasebook.Text.Word

/-!
Regular expressions from text: alternatives of atoms, classes and groups in a row, any of which may
be repeated. A group may have a name of its own or change the flags. An expression stands between
braces here and holds no closing brace behind an opening one, so what would need one, a count of
repetitions above all, is refused.
-/
namespace Phrasebook

structure RegularExpression where
  height : Nat
  /-- It asks where words of Unicode start or end. -/
  asksForWords : Bool

namespace RegularExpression

inductive Part where
  /-- Flags, which nothing repeats. -/
  | flags
  | item (height : Nat)

def Part.height : Part → Nat
  | flags => 0
  | item height => height

structure Group where
  /-- The mode behind the group. -/
  outerMode : Mode := {}
  /-- The heights of the alternatives that are complete. -/
  alternatives : List Nat := []
  /-- The parts of the last alternative, the last one first. -/
  parts : List Part := []

namespace Group

def push (group : Group) (part : Part) : Group :=
  { group with parts := part :: group.parts }

def heights (group : Group) : List Nat :=
  joinedHeight (group.parts.map Part.height) :: group.alternatives

def nextAlternative (group : Group) : Group :=
  { group with alternatives := group.heights, parts := [] }

def innerHeight (group : Group) : Nat :=
  joinedHeight group.heights

def repeatLast? (group : Group) : Option Group :=
  match group.parts with
  | .item height :: parts => some { group with parts := .item (height + 1) :: parts }
  | _ => none

end Group

structure Reading where
  mode : Mode := {}
  names : List (List Char) := []
  asksForWords : Bool := false
  group : Group := {}
  outer : List Group := []

namespace Reading

def push (reading : Reading) (part : Part) : Reading :=
  { reading with group := reading.group.push part }

def pushAtom? (reading : Reading) (atom : Atom) : Option Reading :=
  if atom.isText reading.mode then
    let asks := atom = .wordEdge ∧ reading.mode.unicode
    some { reading.push (.item 0) with asksForWords := reading.asksForWords || asks }
  else none

def enter (reading : Reading) (mode : Mode) : Reading :=
  { reading with
    mode
    group := { outerMode := reading.mode }
    outer := reading.group :: reading.outer }

def leave? (reading : Reading) : Option Reading :=
  match reading.outer with
  | [] => none
  | group :: outer =>
    let part := Part.item (reading.group.innerHeight + 1)
    some { reading with mode := reading.group.outerMode, group := group.push part, outer }

end Reading

/-- A name for a group: a letter or `_`, and then also numbers, points and brackets. -/
def isGroupName : List Char → Bool
  | [] => false
  | char :: rest =>
    (char == '_' || isLetter char) &&
      rest.all fun char => ['_', '.', '[', ']'].contains char || isLetterOrNumber char

namespace Reading

/-- A group opens whose name follows. No two groups have the same one. -/
def enterNamed? (reading : Reading) (chars : List Char) : Option (Reading × List Char) :=
  let name := chars.takeWhile (· ≠ '>')
  match chars.drop name.length with
  | '>' :: rest =>
    if isGroupName name && !reading.names.contains name then
      some ({ reading.enter reading.mode with names := name :: reading.names }, rest)
    else none
  | _ => none

def switch? (reading : Reading) (chars : List Char) : Option (Reading × List Char) :=
  let flags := chars.takeWhile fun char => char ≠ ':' ∧ char ≠ ')'
  match reading.mode.change? flags, chars.drop flags.length with
  | some mode, ':' :: rest => some (reading.enter mode, rest)
  | some mode, ')' :: rest =>
    if flags.isEmpty then none else some ({ reading.push .flags with mode }, rest)
  | _, _ => none

def open? (reading : Reading) (chars : List Char) : Option (Reading × List Char) :=
  match reading.mode.skip chars with
  | '?' :: 'P' :: '<' :: rest => reading.enterNamed? rest
  | '?' :: '<' :: rest => reading.enterNamed? rest
  | '?' :: rest => reading.switch? rest
  | rest => some (reading.enter reading.mode, rest)

/-- The last part is repeated, as few times as will do if a question mark follows. -/
def repeatLast? (reading : Reading) (chars : List Char) : Option (Reading × List Char) :=
  reading.group.repeatLast?.map fun group =>
    ({ reading with group }, match chars with
      | '?' :: rest => rest
      | _ => chars)

def next? (reading : Reading) (char : Char) (rest : List Char) : Option (Reading × List Char) :=
  match char with
  | '(' => reading.open? rest
  | ')' => reading.leave?.map (·, rest)
  | '|' => some ({ reading with group := reading.group.nextAlternative }, rest)
  | '[' =>
    (readClass reading.mode rest).map fun (height, rest) => (reading.push (.item height), rest)
  | '*' | '+' | '?' => reading.repeatLast? rest
  | '{' => none
  | '\\' =>
    match readEscape reading.mode rest with
    | some (atom, rest) => (reading.pushAtom? atom).map (·, rest)
    | none => none
  | '.' => (reading.pushAtom? .dot).map (·, rest)
  | '^' | '$' => (reading.pushAtom? .edge).map (·, rest)
  | _ => (reading.pushAtom? (.literal char)).map (·, rest)

/-- Read to the end. The first argument bounds the recursion: one for each character is enough. -/
def readAll : Nat → Reading → List Char → Option Reading
  | 0, _, _ => none
  | fuel + 1, reading, chars =>
    match reading.mode.skip chars with
    | [] => some reading
    | char :: rest =>
      match reading.next? char rest with
      | some (reading, rest) => readAll fuel reading rest
      | none => none

def finish? (reading : Reading) : Option RegularExpression :=
  let height := reading.group.innerHeight
  if reading.outer.isEmpty ∧ height ≤ deepest then
    some { height, asksForWords := reading.asksForWords }
  else none

end Reading

def ofChars? (chars : List Char) : Option RegularExpression :=
  (Reading.readAll (chars.length + 1) {} chars).bind (·.finish?)

end RegularExpression

end Phrasebook
