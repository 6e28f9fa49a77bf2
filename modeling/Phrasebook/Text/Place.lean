/-!
Places in a text, counted in bytes of UTF-8. A place may lie inside a character, where a text cannot
be cut.
-/
namespace Phrasebook

def byteLength : List Char → Nat
  | [] => 0
  | char :: rest => char.utf8Size + byteLength rest

def cutAt? : Nat → List Char → Option (List Char × List Char)
  | 0, chars => some ([], chars)
  | _ + 1, [] => none
  | place + 1, char :: rest =>
    if char.utf8Size ≤ place + 1 then
      (cutAt? (place + 1 - char.utf8Size) rest).map fun (front, back) => (char :: front, back)
    else none

def between? (first last : Nat) (chars : List Char) : Option (List Char) := do
  let (_, back) ← cutAt? first chars
  let (front, _) ← cutAt? (last - first) back
  return front

end Phrasebook
