import Phrasebook.CommandLine.Notes
import Phrasebook.FileTree.Basic
import Phrasebook.Number.Reader
import Phrasebook.RegularExpression.Reader
import Phrasebook.Text.Place

/-!
Rules on notes: the name of a part of the program, a field in braces in brackets, and a level behind
`=`. Of what this part writes, and those whose names go on from its name, the notes down to the
level are shown. A level alone speaks of all parts, and a rule without a level of every note. A
field restricts a rule to the notes that have it; all notes have the field `message` and no other. A
field may have a value behind `=`, a number or a regular expression.
-/
namespace Phrasebook.CommandLine

structure NoteRule where
  /-- How the names of the parts begin. -/
  part : String
  field : Option String
  /-- The depth down to which notes are shown. -/
  depth : Nat

inductive RuleFault where
  | malformed
  | unknownLevel
  /-- The value of a field is neither a number nor a regular expression. -/
  | unreadableValue
  /-- The value of a field is an expression that asks where words of Unicode start or end. -/
  | wordsInValue
  /-- A name was to be cut off inside a character. -/
  | insideCharacter
  deriving DecidableEq

namespace RuleFault

def message : RuleFault → String
  | malformed => "invalid filter directive"
  | unknownLevel =>
    "error parsing level filter: expected one of \"off\", \"error\", \"warn\", \"info\", " ++
      "\"debug\", \"trace\", or a number 0-5"
  | unreadableValue => "invalid field filter: error building NFA"
  | wordsInValue =>
    "invalid field filter: unsupported regex feature for DFAs: cannot build DFAs for regexes " ++
      "with Unicode word boundaries; switch to ASCII word boundaries, or heuristically enable " ++
      "Unicode word boundaries or use a different regex engine"
  | insideCharacter => "not a character boundary"

end RuleFault

namespace NoteRule

/-- A depth by number, or by the name of its level in any case; nothing lies at depth zero. -/
def depth? (text : List Char) : Option Nat :=
  let names := ["off", "error", "warn", "info", "debug", "trace"]
  let digits := match text with
    | '+' :: digits => digits
    | _ => text
  if !digits.isEmpty && digits.all Char.isDigit then
    let depth := ofDigits digits
    if depth < names.length then some depth else none
  else names.idxOf? (String.ofList (text.map Char.toLower))

def cut (rule : List Char) (first last : Nat) : Except RuleFault (List Char) :=
  match between? first last rule with
  | some text => .ok text
  | none => .error .insideCharacter

def depthFrom (rule : List Char) (first : Nat) : Except RuleFault Nat := do
  match ← cut rule first (byteLength rule) with
  | [] => return NoteLevel.trace.depth
  | level =>
    match depth? level with
    | some depth => return depth
    | none => throw .unknownLevel

def depthBehind (rule : List Char) (place : Nat) : List Char → Except RuleFault Nat
  | [] => return NoteLevel.trace.depth
  | '=' :: _ => depthFrom rule (place + 1)
  | _ => throw .malformed

/-- Check the value that a field has, if it has one. Behind a second `=` nothing is looked at. -/
def checkValue (field : List Char) : Except RuleFault Unit :=
  match splitAtEach '=' field with
  | _ :: value :: _ =>
    if (Number.ofText? (String.ofList value)).isSome then return ()
    else
      match RegularExpression.ofChars? value with
      | none => throw .unreadableValue
      | some expression => if expression.asksForWords then throw .wordsInValue else return ()
  | _ => return ()

/-- What stands in brackets. A name in front of the braces, or a value of the field, makes a rule
speak of no notes at all. -/
def readBrackets (rule part : List Char) (first : Nat) (inside : List Char) :
    Except RuleFault (Option NoteRule) := do
  let name := inside.takeWhile fun char => char ≠ ']' ∧ char ≠ '\x7b'
  let nameEnd := first + byteLength name
  match inside.drop name.length with
  | [] => throw .malformed
  | ']' :: rest =>
    let _ ← cut rule first nameEnd
    let _ ← depthBehind rule (nameEnd + 1) rest
    return none
  | _ :: rest =>
    let name ← cut rule first nameEnd
    let field := rest.takeWhile (· ≠ '\x7d')
    let fieldEnd := nameEnd + 1 + byteLength field
    if rest.length = field.length then throw .malformed
    let rest := rest.drop (field.length + 1)
    let field ← cut rule (nameEnd + 1) fieldEnd
    if field.isEmpty then throw .malformed
    checkValue field
    match rest with
    | ']' :: rest =>
      let depth ← depthBehind rule (fieldEnd + 2) rest
      let speaks := name.isEmpty && !field.contains '='
      return if speaks then
        some { part := String.ofList part, field := some (String.ofList field), depth }
      else none
    | _ => throw .malformed

def startsName (char : Char) : Bool :=
  isLetterOrNumber char || char == '-' || char == ':' || char == '_'

/-- Read a rule; `none` if it speaks of no notes. The marks are looked for between the blanks at the
two ends, and their places counted from there, but names are cut from the whole text: blanks in
front of a rule shift everything in it. -/
def read (text : String) : Except RuleFault (Option NoteRule) := do
  let rule := text.toList
  let marked := trimmed rule
  let part := marked.takeWhile fun char => char ≠ '=' ∧ char ≠ '['
  let partEnd := byteLength part
  if !(marked.head?.any fun char => char == '[' || startsName char) then throw .malformed
  match marked.drop part.length with
  | [] =>
    return match depth? rule with
    | some depth => some { part := "", field := none, depth }
    | none => some { part := text, field := none, depth := NoteLevel.trace.depth }
  | '=' :: _ =>
    let part ← cut rule 0 partEnd
    return some {
      part := String.ofList part, field := none, depth := ← depthFrom rule (partEnd + 1) }
  | _ :: inside =>
    let part ← cut rule 0 partEnd
    readBrackets rule part (partEnd + 1) inside

def covers (rule : NoteRule) (note : Note) : Bool :=
  note.part.startsWith rule.part && rule.field.all (· == "message")

def precision (rule : NoteRule) : Nat :=
  2 * rule.part.length + if rule.field.isSome then 1 else 0

end NoteRule

end Phrasebook.CommandLine
