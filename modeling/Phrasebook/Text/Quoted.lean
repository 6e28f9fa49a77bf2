import Phrasebook.Text.Hidden

/-!
Texts shown between double quotes, for messages: quotes, backslashes and the common controls have
a short escape, hidden characters stand as `\u{…}` with their code point in hexadecimal.
-/
namespace Phrasebook

def hexDigits (n : Nat) : List Char :=
  Nat.toDigits 16 n

def quotedChar (char : Char) : List Char :=
  match char with
  | '\x00' => ['\\', '0']
  | '\t' => ['\\', 't']
  | '\n' => ['\\', 'n']
  | '\r' => ['\\', 'r']
  | '"' => ['\\', '"']
  | '\\' => ['\\', '\\']
  | _ =>
    if isHidden char then ['\\', 'u', '{'] ++ hexDigits char.toNat ++ ['}'] else [char]

def quoted (text : String) : String :=
  String.ofList ('"' :: (text.toList.flatMap quotedChar ++ ['"']))

def quotedList (texts : List String) : String :=
  "[" ++ ", ".intercalate (texts.map quoted) ++ "]"

end Phrasebook
