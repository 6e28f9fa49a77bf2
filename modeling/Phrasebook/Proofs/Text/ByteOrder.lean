import Phrasebook.Text.Sorted
import Std.Data.ExtTreeMap

/-!
Texts in order of their code points are in order of their UTF-8 bytes (`bytes_lt_of_compare`). The
first byte of a code grows with it; two codes with the same first byte have as many bytes, and those
that follow are digits to the base 64. So the keys of a map are listed in order of their bytes
(`enumerates_keys`).
-/
namespace Phrasebook

def bytes (text : String) : List UInt8 :=
  text.toUTF8.data.toList

def leadByte (code : Nat) : Nat :=
  if code ≤ 127 then code
  else if code ≤ 2047 then code / 64 + 192
  else if code ≤ 65535 then code / 4096 + 224
  else code / 262144 + 240

def followers (code : Nat) : Nat :=
  if code ≤ 127 then 0 else if code ≤ 2047 then 1 else if code ≤ 65535 then 2 else 3

def dropDigits (code : Nat) : Nat → Nat
  | 0 => code
  | count + 1 => dropDigits (code / 64) count

def continuation (code : Nat) : Nat → List UInt8
  | 0 => []
  | count + 1 => continuation (code / 64) count ++ [.ofNat (code % 64 + 128)]

theorem bytes_eq_flatMap (text : String) :
    bytes text = text.toList.flatMap String.utf8EncodeChar := by
  rw [bytes, String.toUTF8_eq_toByteArray, ← String.utf8Encode_toList, List.utf8Encode,
    List.toList_data_toByteArray]

theorem bytes_inj {text text' : String} : bytes text = bytes text' ↔ text = text' := by
  rw [bytes, bytes, Array.toList_inj, ← ByteArray.ext_iff, String.toUTF8_eq_toByteArray,
    String.toUTF8_eq_toByteArray, String.toByteArray_inj]

theorem code_lt (char : Char) : char.val.toNat < 1114112 := by
  rcases char.valid with hvalid | hvalid
  · exact Nat.lt_trans hvalid (by decide)
  · exact hvalid.2

theorem utf8EncodeChar_eq (char : Char) : String.utf8EncodeChar char =
    .ofNat (leadByte char.val.toNat) ::
      continuation char.val.toNat (followers char.val.toNat) := by
  have hlast := code_lt char
  rw [String.utf8EncodeChar.eq_1, leadByte, followers]
  generalize char.val.toNat = code at hlast ⊢
  repeat' split
  all_goals simp (disch := omega) [continuation, Nat.div_div_eq_div_mul, Nat.mod_eq_of_lt]

section Order

variable {code code' : Nat}

theorem leadByte_lt_or_eq (h : code < code') :
    leadByte code < leadByte code' ∨ leadByte code = leadByte code' ∧
      followers code = followers code' ∧
      dropDigits code (followers code) = dropDigits code' (followers code) := by
  unfold leadByte followers
  repeat' split
  all_goals
    simp only [dropDigits, Nat.div_div_eq_div_mul, Nat.reduceMul, true_and]
    omega

theorem leadByte_lt (hlast : code < 1114112) : leadByte code < 256 := by
  unfold leadByte
  repeat' split
  all_goals omega

theorem ofNat_lt_ofNat (h : code < code') (hlast : code' < 256) :
    UInt8.ofNat code < UInt8.ofNat code' := by
  rwa [UInt8.lt_iff_toNat_lt, UInt8.toNat_ofNat_of_lt' (Nat.lt_trans h hlast),
    UInt8.toNat_ofNat_of_lt' hlast]

theorem continuation_append_lt {count : Nat} (h : code < code')
    (hrest : dropDigits code count = dropDigits code' count) (rest rest' : List UInt8) :
    continuation code count ++ rest < continuation code' count ++ rest' := by
  induction count generalizing code code' rest rest' with
  | zero => exact absurd hrest (Nat.ne_of_lt h)
  | succ count ih =>
    simp only [continuation, List.append_assoc, List.singleton_append]
    by_cases hsame : code / 64 = code' / 64
    · rw [hsame]
      have hdigit : code % 64 + 128 < code' % 64 + 128 := by omega
      have hbyte := ofNat_lt_ofNat hdigit (by omega)
      exact List.append_left_lt (List.cons_lt_cons_iff.2 (.inl hbyte))
    · exact ih (by omega) hrest _ _

theorem utf8EncodeChar_append_lt {char char' : Char} (h : char < char') (rest rest' : List UInt8) :
    String.utf8EncodeChar char ++ rest < String.utf8EncodeChar char' ++ rest' := by
  have hcode : char.val.toNat < char'.val.toNat := h
  rw [utf8EncodeChar_eq, utf8EncodeChar_eq, List.cons_append, List.cons_append,
    List.cons_lt_cons_iff]
  rcases leadByte_lt_or_eq hcode with hlead | ⟨hlead, hfollowers, hdigits⟩
  · exact .inl (ofNat_lt_ofNat hlead (leadByte_lt (code_lt char')))
  · rw [hlead, ← hfollowers]
    exact .inr ⟨rfl, continuation_append_lt hcode hdigits rest rest'⟩

theorem flatMap_utf8EncodeChar_lt {chars chars' : List Char} (h : chars < chars') :
    chars.flatMap String.utf8EncodeChar < chars'.flatMap String.utf8EncodeChar := by
  induction chars generalizing chars' with
  | nil =>
    cases chars' with
    | nil => exact absurd h (List.lt_irrefl [])
    | cons char' chars' =>
      rw [List.flatMap_nil, List.flatMap_cons, utf8EncodeChar_eq]
      exact List.nil_lt_cons _ _
  | cons char chars ih =>
    cases chars' with
    | nil => exact absurd h (List.not_lt_nil _)
    | cons char' chars' =>
      rw [List.flatMap_cons, List.flatMap_cons]
      rcases List.cons_lt_cons_iff.1 h with hchar | ⟨rfl, hchars⟩
      · exact utf8EncodeChar_append_lt hchar _ _
      · exact List.append_left_lt (ih hchars)

end Order

theorem bytes_lt_of_compare {text text' : String} (h : compare text text' = .lt) :
    bytes text < bytes text' := by
  have hchars : text.toList < text'.toList :=
    (compareOfLessAndEq_eq_lt (x := text) (y := text')).1 h
  rw [bytes_eq_flatMap, bytes_eq_flatMap]
  exact flatMap_utf8EncodeChar_lt hchars

theorem pairwise_bytes_toList {α : Type} (map : Std.ExtTreeMap String α) :
    map.toList.Pairwise fun entry entry' => bytes entry.1 < bytes entry'.1 :=
  Std.ExtTreeMap.ordered_keys_toList.imp bytes_lt_of_compare

/-- The texts are those with the property, in order of their bytes and each once. -/
structure Enumerates (texts : List String) (property : String → Prop) : Prop where
  ascending : texts.Pairwise fun text text' => bytes text < bytes text'
  mem_iff : ∀ text, text ∈ texts ↔ property text

theorem enumerates_keys {α : Type} (map : Std.ExtTreeMap String α) :
    Enumerates map.keys (· ∈ map) where
  ascending := by
    rw [← Std.ExtTreeMap.map_fst_toList_eq_keys, List.pairwise_map]
    exact pairwise_bytes_toList map
  mem_iff _ := Std.ExtTreeMap.mem_keys

theorem enumerates_filter_toList {α : Type} (map : Std.ExtTreeMap String α) (keep : α → Bool) :
    Enumerates ((map.toList.filter fun entry => keep entry.2).map (·.1)) fun key =>
      ∃ value, map[key]? = some value ∧ keep value = true where
  ascending := List.pairwise_map.2 ((pairwise_bytes_toList map).filter _)
  mem_iff key := by
    simp only [List.mem_map, List.mem_filter, Prod.exists, exists_and_right, exists_eq_right,
      Std.ExtTreeMap.mem_toList_iff_getElem?_eq_some]

theorem enumerates_sortedDistinct (texts : List String) :
    Enumerates (sortedDistinct texts) (· ∈ texts) where
  ascending := Std.ExtTreeSet.ordered_toList.imp bytes_lt_of_compare
  mem_iff _ := mem_sortedDistinct

theorem Enumerates.filter {texts : List String} {property : String → Prop}
    (h : Enumerates texts property) (keep : String → Bool) :
    Enumerates (texts.filter keep) fun text => property text ∧ keep text = true where
  ascending := h.ascending.filter keep
  mem_iff text := by rw [List.mem_filter, h.mem_iff]

theorem Enumerates.congr {texts : List String} {property property' : String → Prop}
    (h : Enumerates texts property) (hiff : ∀ text, property text ↔ property' text) :
    Enumerates texts property' where
  ascending := h.ascending
  mem_iff text := (h.mem_iff text).trans (hiff text)

end Phrasebook
