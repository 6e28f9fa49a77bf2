import Phrasebook.Registry.Basic

/-!
Settings, taken from variables such as those of the environment. A variable that is empty counts as
absent, except for the folder.
-/
namespace Phrasebook

structure Settings where
  languageFolder : String
  language : Option String
  callee : String
  renderMode : RenderMode

namespace Settings

def variableNames : List String :=
  ["TRANSLATABLES_LANGUAGE_FOLDER", "TRANSLATABLES_LANGUAGE", "TRANSLATABLES_ALIAS",
    "TRANSLATABLES_STRICT"]

def nonEmpty (value : Option String) : Option String :=
  value.filter (· ≠ "")

def ofVariables (lookup : String → Option String) : Settings where
  languageFolder := (lookup "TRANSLATABLES_LANGUAGE_FOLDER").getD "./"
  language := nonEmpty (lookup "TRANSLATABLES_LANGUAGE")
  callee := (nonEmpty (lookup "TRANSLATABLES_ALIAS")).getD "t"
  renderMode :=
    match lookup "TRANSLATABLES_STRICT" with
    | some "1" | some "true" => .strict
    | _ => .passthrough

def default : Settings :=
  ofVariables fun _ => none

end Settings

end Phrasebook
