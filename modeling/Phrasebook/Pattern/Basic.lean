import Phrasebook.Placeholder
import Phrasebook.Text.Occurrence

/-!
Source patterns, such as `{number(n)} files`, read for one language. A word that occurs several
times in a pattern is one placeholder.
-/
namespace Phrasebook

structure Pattern where
  source : String
  language : String
  /-- The distinct words between braces, in order of first occurrence, with what they mean. -/
  placeholders : List (String × Placeholder)

namespace Pattern

def parse (languages : Languages) (code source : String) : Except Error Pattern := do
  let placeholders ← (fragments source).eraseDups.mapM fun word => do
    return (word, ← Placeholder.parse languages code word)
  return { source, language := code, placeholders }

def replaceWord (word replacement text : String) : String :=
  String.ofList <|
    replaceFrom '{' (word.toList ++ ['}']) replacement.toList 0 text.toList

end Pattern

end Phrasebook
