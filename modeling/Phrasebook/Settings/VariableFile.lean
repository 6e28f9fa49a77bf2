import Phrasebook.Text.Blank
import Phrasebook.Text.Word
import Std.Data.ExtTreeMap

/-!
Files of variables, one `NAME=value` to a line. Values may be quoted, and refer to other variables
as `$NAME` or with the name in braces; a quoted value may go on over several lines. A variable that
is already set keeps its value. Reading ends at the first line that cannot be read, and comes to
nothing if a variable was to get a value that no variable can have.
-/
namespace Phrasebook

abbrev Variables := Std.ExtTreeMap String String

namespace Variables

/-- Set a variable that is not set yet. No value can hold the character NUL. -/
def setNew? (environment : Variables) (name value : String) : Option Variables :=
  if name ∈ environment then some environment
  else if '\x00' ∈ value.toList then none
  else some (environment.insert name value)

/-- The value that a name stands for, which is empty if nothing is found. Of the lines `NAME=value`
that make up an environment the one that starts with the name and `=` is meant, so a name with `=`
in it asks for the end of a value. -/
def content (environment : Variables) (name : List Char) : List Char :=
  let value := (environment[String.ofList (name.takeWhile (· ≠ '='))]?.getD "").toList
  match name.dropWhile (· ≠ '=') with
  | [] => value
  | _ :: start =>
    if (start ++ ['=']).isPrefixOf value then value.drop (start.length + 1) else []

end Variables

namespace VariableFile

inductive LineState where
  | complete
  | blank
  | escape
  | strong
  | strongEscape
  | weak
  | weakEscape
  deriving DecidableEq

def outsideQuotes : Char → LineState
  | '\\' => .escape
  | '"' => .weak
  | '\'' => .strong
  | _ => .complete

def LineState.next (state : LineState) (char : Char) : LineState :=
  match state with
  | .complete =>
    if isBlank char && char != '\n' && char != '\r' then .blank else outsideQuotes char
  | .blank => outsideQuotes char
  | .escape => .complete
  | .weak =>
    match char with
    | '\\' => .weakEscape
    | '"' => .complete
    | _ => .weak
  | .weakEscape => .weak
  | .strong =>
    match char with
    | '\\' => .strongEscape
    | '\'' => .complete
    | _ => .strong
  | .strongEscape => .strong

def LineState.follow (state : LineState) : List Char → LineState ⊕ List Char
  | [] => .inl state
  | char :: rest =>
    if state = .blank ∧ char = '#' then .inr []
    else
      match follow (state.next char) rest with
      | .inl state => .inl state
      | .inr part => .inr (char :: part)

def physicalLines {α : Type} [DecidableEq α] (lineBreak : α) : List α → List (List α)
  | [] => []
  | item :: rest =>
    if item = lineBreak then [lineBreak] :: physicalLines lineBreak rest
    else
      match physicalLines lineBreak rest with
      | [] => [[item]]
      | line :: lines => (item :: line) :: lines

def decodeLine? (line : List UInt8) : Option String :=
  String.fromUTF8? ⟨line.toArray⟩

def leadingText (bytes : ByteArray) : String :=
  let lines := physicalLines 10 bytes.data.toList
  String.join ((lines.takeWhile fun line => (decodeLine? line).isSome).filterMap decodeLine?)

def withoutLineBreak (line : List Char) : List Char :=
  match line.reverse with
  | '\n' :: '\r' :: rest => rest.reverse
  | '\n' :: rest => rest.reverse
  | _ => line

/-- Join the lines over which a quoted value extends. A comment line is left empty; `none` stands
for a value that is still open at the end. -/
def logicalLines (start : List Char) (state : LineState) :
    List (List Char) → List (Option (List Char))
  | [] => if state = .complete then [] else [none]
  | line :: lines =>
    if (skipBlanks (start ++ line)).head? = some '#' then
      some [] :: logicalLines [] .complete lines
    else
      match state.follow line with
      | .inr part => some (start ++ part) :: logicalLines [] .complete lines
      | .inl .complete =>
        some (withoutLineBreak (start ++ line)) :: logicalLines [] .complete lines
      | .inl state => logicalLines (start ++ line) state lines

inductive Quote where
  | none
  | strong
  | weak
  deriving DecidableEq

inductive Reference where
  | none
  | bare (name : List Char)
  | braced (name : List Char)
  deriving DecidableEq

structure Reading where
  quote : Quote := .none
  escaped : Bool := false
  /-- Only a comment may still follow. -/
  ended : Bool := false
  reference : Reference := .none
  output : List Char := []

namespace Reading

def push (reading : Reading) (chars : List Char) : Reading :=
  { reading with output := reading.output ++ chars }

def unescape? (char : Char) : Option Char :=
  if char = 'n' then some '\n'
  else if char ∈ ['\\', '\'', '"', '$', ' '] then some char
  else none

def outside (reading : Reading) (char : Char) : Reading :=
  if char = '$' then { reading with reference := .bare [] }
  else if char = '\\' then { reading with escaped := true }
  else
    match reading.quote with
    | .weak => if char = '"' then { reading with quote := .none } else reading.push [char]
    | _ =>
      if char = '\'' then { reading with quote := .strong }
      else if char = '"' then { reading with quote := .weak }
      else if char = ' ' ∨ char = '\t' then { reading with ended := true }
      else reading.push [char]

/-- A character inside a reference or just behind it. What ends a reference without braces is
taken as it is, even a quote. -/
def inReference (environment : Variables) (reading : Reading) (char : Char) : Reading :=
  match reading.reference with
  | .none => reading.outside char
  | .bare name =>
    if isLetterOrNumber char then { reading with reference := .bare (name ++ [char]) }
    else if char = '{' ∧ name = [] then { reading with reference := .braced [] }
    else
      let reading := reading.push (environment.content name)
      if char = '$' then { reading with reference := .bare [] }
      else { reading with reference := .none }.push [char]
  | .braced name =>
    if char = '}' then
      { reading with reference := .none }.push (environment.content name)
    else { reading with reference := .braced (name ++ [char]) }

def next? (environment : Variables) (reading : Reading) (char : Char) : Option Reading :=
  if reading.escaped then
    (unescape? char).map fun char => { reading with escaped := false }.push [char]
  else if reading.quote = .strong then
    some (if char = '\'' then { reading with quote := .none } else reading.push [char])
  else some (reading.inReference environment char)

def readAll (environment : Variables) (reading : Reading) : List Char → Option Reading
  | [] => some reading
  | char :: rest =>
    if reading.ended then
      if char = ' ' ∨ char = '\t' then readAll environment reading rest
      else if char = '#' then some reading
      else none
    else
      match reading.next? environment char with
      | some reading => readAll environment reading rest
      | none => none

def finish? (environment : Variables) (reading : Reading) : Option String :=
  match reading.quote, reading.reference with
  | .none, .none => some (String.ofList reading.output)
  | .none, .bare name => some (String.ofList (reading.push (environment.content name)).output)
  | _, _ => none

end Reading

def readValue? (environment : Variables) (chars : List Char) : Option String :=
  (({} : Reading).readAll environment chars).bind (·.finish? environment)

def isNameChar (char : Char) : Bool :=
  char.isAlphanum || char == '_' || char == '.'

def readName? : List Char → Option (String × List Char)
  | [] => none
  | char :: rest =>
    if char.isAlpha || char == '_' then
      some (String.ofList (char :: rest.takeWhile isNameChar),
        skipBlanks (rest.dropWhile isNameChar))
    else none

def readAssignment? (chars : List Char) : Option (String × List Char) :=
  match readName? chars with
  | none => none
  | some (name, '=' :: rest) => some (name, skipBlanks rest)
  | some ("export", rest) =>
    match readName? rest with
    | some (name, '=' :: rest) => some (name, skipBlanks rest)
    | _ => none
  | some _ => none

inductive LineOutcome where
  | read (environment : Variables)
  | unreadable
  /-- A variable was to get a value that it cannot have. -/
  | impossible

def applyLine (environment : Variables) (line : List Char) : LineOutcome :=
  let set (name value : String) : LineOutcome :=
    match environment.setNew? name value with
    | some environment => .read environment
    | none => .impossible
  match trimmed line with
  | [] => .read environment
  | '#' :: _ => .read environment
  | chars =>
    match readAssignment? chars with
    | none => .unreadable
    | some (name, value) =>
      if value.isEmpty || value.head? == some '#' then set name ""
      else
        match readValue? environment value with
        | some value => set name value
        | none => .unreadable

def applyLines (environment : Variables) : List (Option (List Char)) → Option Variables
  | some line :: lines =>
    match applyLine environment line with
    | .read environment => applyLines environment lines
    | .unreadable => some environment
    | .impossible => none
  | _ => some environment

def withoutMark : List Char → List Char
  | '\ufeff' :: rest => rest
  | chars => chars

/-- The lines of a file; a byte order mark at its start is passed over. -/
def linesOf (content : String) : List (Option (List Char)) :=
  logicalLines [] .complete (physicalLines '\n' (withoutMark content.toList))

def load? (environment : Variables) (content : String) : Option Variables :=
  applyLines environment (linesOf content)

def referredNames : List Char → List (List Char)
  | [] => []
  | '$' :: '{' :: rest =>
    rest.takeWhile (fun char => char ≠ '}' ∧ char ≠ '=') :: referredNames rest
  | '$' :: rest => rest.takeWhile isLetterOrNumber :: referredNames rest
  | _ :: rest => referredNames rest

def mentionedNames (content : String) : List String :=
  let assigned := (linesOf content).filterMap fun line =>
    (line.bind (readAssignment? ∘ trimmed)).map Prod.fst
  assigned ++ (referredNames content.toList).map String.ofList

end VariableFile

end Phrasebook
