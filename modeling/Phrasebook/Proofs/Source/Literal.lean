import Mathlib.Data.List.TakeWhile
import Phrasebook.Source.Call

/-!
Literals and calls as grammars. `Spells` has a rule for each way to write a character between
quotes, `Calls` puts a call together from its parts, and what `readLiteral` and `callAt?` read is
what they derive (`readLiteral_eq_some_iff`, `callAt?_eq_some_iff`). Every content can be written,
with a backslash in front of each backslash and quote (`spells_escape`).
-/
namespace Phrasebook.Source

/-- The first text is read as the second one between two of these quotes. -/
inductive Spells (quote : Char) : List Char → List Char → Prop
  | nil : Spells quote [] []
  | plain {char : Char} {written content : List Char} (hquote : char ≠ quote)
      (hescape : char ≠ '\\') (hrest : Spells quote written content) :
      Spells quote (char :: written) (char :: content)
  | escaped {char : Char} {written content : List Char} (hchar : char ≠ '\n')
      (hrest : Spells quote written content) :
      Spells quote ('\\' :: char :: written) (char :: content)

def escape (quote : Char) (content : List Char) : List Char :=
  content.flatMap fun char => if char = '\\' ∨ char = quote then ['\\', char] else [char]

def IsQuote (char : Char) : Prop :=
  char = '"' ∨ char = '\''

theorem IsQuote.ne_escape {quote : Char} (h : IsQuote quote) : quote ≠ '\\' := by
  rcases h with rfl | rfl <;> decide

theorem IsQuote.ne_newline {quote : Char} (h : IsQuote quote) : quote ≠ '\n' := by
  rcases h with rfl | rfl <;> decide

theorem IsQuote.not_isBlank {quote : Char} (h : IsQuote quote) : isBlank quote = false := by
  rcases h with rfl | rfl <;> decide

theorem IsQuote.not_isWordChar {quote : Char} (h : IsQuote quote) : isWordChar quote = false := by
  rcases h with rfl | rfl <;> decide +kernel

theorem spells_escape {quote : Char} (hquote : IsQuote quote) (content : List Char) :
    Spells quote (escape quote content) content := by
  induction content with
  | nil => exact .nil
  | cons char content ih =>
    rw [escape, List.flatMap_cons]
    split
    · next hchar =>
      refine .escaped ?_ ih
      rcases hchar with rfl | rfl
      · decide
      · exact hquote.ne_newline
    · next hchar =>
      rw [not_or] at hchar
      exact .plain hchar.2 hchar.1 ih

theorem readLiteral_of_spells {quote : Char} (hquote : IsQuote quote) {written content : List Char}
    (h : Spells quote written content) (after : List Char) :
    readLiteral quote (written ++ quote :: after) = some (content, after) := by
  induction h with
  | nil =>
    rw [List.nil_append, readLiteral, if_pos rfl]
    · exact fun rest heq => absurd heq hquote.ne_escape
    · exact fun char rest heq => absurd heq hquote.ne_escape
  | @plain char written content hne hescape _ ih =>
    rw [List.cons_append, readLiteral, if_neg hne, ih]
    · rfl
    · exact fun rest heq => absurd heq hescape
    · exact fun char rest heq => absurd heq hescape
  | @escaped char written content hchar _ ih =>
    rw [List.cons_append, List.cons_append, readLiteral, ih]
    · rfl
    · exact fun heq => hchar heq

theorem exists_of_readLiteral {quote : Char} {chars content after : List Char}
    (h : readLiteral quote chars = some (content, after)) :
    ∃ written, Spells quote written content ∧ chars = written ++ quote :: after := by
  fun_induction readLiteral quote chars generalizing content after with
  | case1 => contradiction
  | case2 => contradiction
  | case3 char rest hchar ih =>
    obtain ⟨⟨content', after'⟩, hread, heq⟩ := Option.map_eq_some_iff.1 h
    cases heq
    obtain ⟨written, hspells, rfl⟩ := ih hread
    exact ⟨'\\' :: char :: written, .escaped (fun heq => hchar heq) hspells, rfl⟩
  | case4 rest =>
    cases h
    exact ⟨[], .nil, rfl⟩
  | case5 char rest hnewline hescape hne ih =>
    obtain ⟨⟨content', after'⟩, hread, heq⟩ := Option.map_eq_some_iff.1 h
    cases heq
    obtain ⟨written, hspells, rfl⟩ := ih hread
    have hplain : char ≠ '\\' := by
      intro heq
      obtain ⟨next, more, hmore⟩ : ∃ next more, written ++ quote :: after = next :: more :=
        List.exists_cons_of_ne_nil (by simp)
      exact hescape next more heq hmore
    exact ⟨char :: written, .plain hne hplain hspells, rfl⟩

theorem readLiteral_eq_some_iff {quote : Char} (hquote : IsQuote quote)
    {chars content after : List Char} :
    readLiteral quote chars = some (content, after) ↔
      ∃ written, Spells quote written content ∧ chars = written ++ quote :: after := by
  refine ⟨exists_of_readLiteral, ?_⟩
  rintro ⟨written, hspells, rfl⟩
  exact readLiteral_of_spells hquote hspells after

theorem after?_eq_some_iff {expected chars rest : List Char} :
    after? expected chars = some rest ↔ chars = expected ++ rest := by
  fun_induction after? expected chars with
  | case1 chars => simp
  | case2 => simp
  | case3 char expected chars ih => simp [ih]
  | case4 => simp_all [eq_comm]

theorem exists_skipBlanks (chars : List Char) :
    ∃ blanks, (∀ c ∈ blanks, isBlank c = true) ∧ chars = blanks ++ skipBlanks chars :=
  ⟨chars.takeWhile isBlank, fun _ => List.mem_takeWhile_imp, List.takeWhile_append_dropWhile.symm⟩

theorem skipBlanks_append {blanks : List Char} (hblanks : ∀ c ∈ blanks, isBlank c = true)
    {char : Char} (hchar : isBlank char = false) (rest : List Char) :
    skipBlanks (blanks ++ char :: rest) = char :: rest := by
  rw [skipBlanks_append_of_all hblanks]
  simp [skipBlanks, hchar]

/-- A text starts with a call of this function: its name, an opening parenthesis and a literal, with
blanks in the gaps. -/
def Calls (callee chars content : List Char) (quote : Char) (after : List Char) : Prop :=
  ∃ gap innerGap written, (∀ c ∈ gap, isBlank c = true) ∧ (∀ c ∈ innerGap, isBlank c = true) ∧
    IsQuote quote ∧ Spells quote written content ∧
      chars = callee ++ gap ++ '(' :: (innerGap ++ quote :: (written ++ quote :: after))

theorem callAt?_eq_some_iff {callee chars content after : List Char} {quote : Char} :
    callAt? callee chars = some (content, quote, after) ↔
      Calls callee chars content quote after := by
  constructor
  · intro h
    obtain ⟨rest, hname, h⟩ := Option.bind_eq_some_iff.1 h
    obtain ⟨inner, hparenthesis, h⟩ := Option.bind_eq_some_iff.1 h
    obtain ⟨gap, hgap, hrest⟩ := exists_skipBlanks rest
    obtain ⟨innerGap, hinnerGap, hinner⟩ := exists_skipBlanks inner
    rw [after?_eq_some_iff] at hname hparenthesis
    split at h
    · contradiction
    · next first literal hfirst =>
      split at h
      · next hquote =>
        obtain ⟨⟨content', after'⟩, hread, heq⟩ := Option.map_eq_some_iff.1 h
        cases heq
        obtain ⟨written, hspells, rfl⟩ := (readLiteral_eq_some_iff hquote).1 hread
        refine ⟨gap, innerGap, written, hgap, hinnerGap, hquote, hspells, ?_⟩
        rw [hname, hrest, hparenthesis, hinner, hfirst]
        simp
      · contradiction
  · rintro ⟨gap, innerGap, written, hgap, hinnerGap, hquote, hspells, rfl⟩
    have hname (rest : List Char) : after? callee (callee ++ rest) = some rest :=
      after?_eq_some_iff.2 rfl
    have hparenthesis (rest : List Char) : after? ['('] ('(' :: rest) = some rest :=
      after?_eq_some_iff.2 rfl
    rw [List.append_assoc, callAt?, hname]
    simp only [Option.bind_eq_bind, Option.bind_some]
    rw [skipBlanks_append hgap (by decide), hparenthesis, Option.bind_some,
      skipBlanks_append hinnerGap hquote.not_isBlank]
    simp only
    rw [if_pos (show quote = '"' ∨ quote = '\'' from hquote),
      (readLiteral_eq_some_iff hquote).2 ⟨written, hspells, rfl⟩, Option.map_some]

end Phrasebook.Source
