import Phrasebook.Catalog.Extraction

/-!
Arguments of the command line: options that every command has, a command, and the options and
operands of the command. An option may have its value behind `=` or in the next argument; behind
`--` all arguments are operands.
-/
namespace Phrasebook.CommandLine

inductive OptionKind where
  | flag
  | text
  /-- A text that must not be empty. -/
  | path
  deriving DecidableEq

structure OptionRule where
  name : String
  kind : OptionKind

inductive Action where
  | extract (codebase : String) (callee : Option String) (options : ExtractionOptions)
  | keys (source : String)
  | render (source values : String) (strict : Bool)
  | check

structure Invocation where
  language : Option String
  folder : Option String
  action : Action

inductive Stop where
  | help
  | version
  | usage
  deriving DecidableEq

structure Rules where
  options : List OptionRule
  operands : Nat
  /-- Whether the version can be asked for, and the first operand is a command. -/
  isOuter : Bool

structure Level where
  values : List (String × String) := []
  flags : List String := []
  operands : List String := []

namespace Level

def value? (level : Level) (name : String) : Option String :=
  level.values.lookup name

def hasFlag (level : Level) (name : String) : Bool :=
  level.flags.contains name

def setFlag (level : Level) (name : String) : Except Stop Level :=
  if level.hasFlag name then .error .usage
  else .ok { level with flags := name :: level.flags }

def setValue (level : Level) (rule : OptionRule) (value : String) : Except Stop Level :=
  if (level.value? rule.name).isSome || (rule.kind == .path && value == "") then .error .usage
  else .ok { level with values := (rule.name, value) :: level.values }

end Level

def splitOption (chars : List Char) : String × Option String :=
  match chars.dropWhile (· ≠ '=') with
  | '=' :: value => (String.ofList (chars.takeWhile (· ≠ '=')), some (String.ofList value))
  | _ => (String.ofList chars, none)

/-- Whether an argument is an option rather than a value; a lone dash is a value. -/
def isOption (argument : String) : Bool :=
  argument.startsWith "-" && argument != "-"

namespace Rules

def option? (rules : Rules) (name : String) : Option OptionRule :=
  rules.options.find? (·.name == name)

def unknownOption (rules : Rules) (name : String) (value : Option String) : Stop :=
  if value.isSome then .usage
  else if name = "help" then .help
  else if name = "version" ∧ rules.isOuter then .version
  else .usage

def shortOption (rules : Rules) (argument : String) : Stop :=
  match argument.toList with
  | _ :: 'h' :: _ => .help
  | _ :: 'V' :: _ => if rules.isOuter then .version else .usage
  | _ => .usage

/-- Read the arguments of a level. At the outer level the first operand ends it and is left, with
what follows it. -/
def read (rules : Rules) (level : Level) : List String → Except Stop (Level × List String)
  | [] => .ok (level, [])
  | argument :: rest =>
    if argument = "--" then
      if rules.isOuter ∨ rules.operands < level.operands.length + rest.length then .error .usage
      else .ok ({ level with operands := level.operands ++ rest }, [])
    else if argument.startsWith "--" then
      let (name, attached) := splitOption (argument.toList.drop 2)
      match rules.option? name, attached with
      | none, _ => .error (rules.unknownOption name attached)
      | some { kind := .flag, .. }, some _ => .error .usage
      | some { kind := .flag, .. }, none =>
        match level.setFlag name with
        | .error stop => .error stop
        | .ok level => read rules level rest
      | some rule, some value =>
        match level.setValue rule value with
        | .error stop => .error stop
        | .ok level => read rules level rest
      | some rule, none =>
        match rest with
        | [] => .error .usage
        | value :: rest =>
          if isOption value then .error .usage
          else
            match level.setValue rule value with
            | .error stop => .error stop
            | .ok level => read rules level rest
    else if isOption argument then .error (rules.shortOption argument)
    else if rules.isOuter then .ok (level, argument :: rest)
    else if rules.operands ≤ level.operands.length then .error .usage
    else read rules { level with operands := level.operands ++ [argument] } rest

end Rules

def commonOptions : List OptionRule :=
  [⟨"language", .text⟩, ⟨"language-folder", .path⟩]

def outerRules : Rules :=
  { options := commonOptions, operands := 0, isOuter := true }

def commandRules? : String → Option Rules
  | "extract" => some {
      options := commonOptions ++ [⟨"codebase", .path⟩, ⟨"alias", .text⟩,
        ⟨"discard-unused", .flag⟩, ⟨"discard-empty", .flag⟩]
      operands := 0
      isOuter := false }
  | "keys" => some { options := commonOptions, operands := 1, isOuter := false }
  | "render" => some {
      options := commonOptions ++ [⟨"values", .text⟩, ⟨"strict", .flag⟩]
      operands := 1
      isOuter := false }
  | "check" => some { options := commonOptions, operands := 0, isOuter := false }
  | _ => none

def action? (command : String) (level : Level) : Option Action :=
  match command, level.operands with
  | "extract", _ => (level.value? "codebase").map fun codebase =>
    .extract codebase (level.value? "alias")
      { discardUnused := level.hasFlag "discard-unused"
        discardEmpty := level.hasFlag "discard-empty" }
  | "keys", [source] => some (.keys source)
  | "render", [source] =>
    some (.render source ((level.value? "values").getD "\x7b\x7d") (level.hasFlag "strict"))
  | "check", _ => some .check
  | _, _ => none

def helpOn : List String → Stop
  | [] => .help
  | [command] =>
    if (commandRules? command).isSome || command == "help" then .help else .usage
  | _ => .usage

/-- What the arguments ask for. An option behind the command wins over the same one in front of
it. -/
def parse (arguments : List String) : Except Stop Invocation :=
  match outerRules.read {} arguments with
  | .error stop => .error stop
  | .ok (_, []) => .error .usage
  | .ok (outer, command :: rest) =>
    if command = "help" then .error (helpOn rest)
    else
      match commandRules? command with
      | none => .error .usage
      | some rules =>
        match rules.read {} rest with
        | .error stop => .error stop
        | .ok (inner, _) =>
          match action? command inner with
          | none => .error .usage
          | some action =>
            .ok {
              language := inner.value? "language" <|> outer.value? "language"
              folder := inner.value? "language-folder" <|> outer.value? "language-folder"
              action }

end Phrasebook.CommandLine
