import Phrasebook.Proofs.Language.Nearest
import Phrasebook.Proofs.Pattern.Faults
import Phrasebook.Proofs.Placeholder.Form
import Phrasebook.Proofs.Text.Fragment

/-!
Which sources are patterns. Every brace-free word between braces has to mean a placeholder: it has
the form of one, and its domain is found (`Placeholder.Means`). The first word that does not is what
a source is refused for, and its form comes before its domain (`Placeholder.Refused`). Braces that
stand around no such word are text (`parse_decides_words`).
-/
namespace Phrasebook

theorem exists_of_eraseDups_eq_append {words front back : List String} {word : String}
    (h : words.eraseDups = front ++ word :: back) :
    ∃ before after, words = before ++ word :: after ∧ before.eraseDups = front := by
  have hmem : word ∈ words := by
    rw [← List.mem_eraseDups, h]
    simp
  obtain ⟨before, after, rfl, hnew⟩ := List.eq_append_cons_of_mem hmem
  have hkept : ((word :: after).removeAll before) = word :: after.removeAll before := by
    simp [List.removeAll, hnew]
  have hnodup := nodup_eraseDups (before ++ word :: after)
  rw [h, List.nodup_middle, List.nodup_cons, List.mem_append, not_or] at hnodup
  rw [List.eraseDups_append, hkept, List.eraseDups_cons, eq_comm,
    List.append_cons_inj_of_notMem hnodup.1.1 hnodup.1.2] at h
  exact ⟨before, after, rfl, h.1.symm⟩

namespace Placeholder

def Means (languages : Languages) (code word : String) (placeholder : Placeholder) : Prop :=
  ∃ domainName, Asks word domainName placeholder.name ∧
    languages.Finds code domainName placeholder.domain

/-- Why a word stands for no placeholder, and how it is told. -/
inductive Refused (languages : Languages) (code word : String) : Error → Prop
  | emptyName (h : LacksName word) :
      Refused languages code word (.malformedPlaceholder word .emptyName)
  | shape (hname : ¬ LacksName word) (hasks : ¬ ∃ domain name, Asks word domain name) :
      Refused languages code word (.malformedPlaceholder word .shape)
  | unresolved {domain name : String} {error : Error} (hasks : Asks word domain name)
      (hlacks : languages.Lacks code domain error) : Refused languages code word error

variable {languages : Languages} {code word : String}

theorem parse_eq_ok_iff_means {placeholder : Placeholder} :
    parse languages code word = .ok placeholder ↔ Means languages code word placeholder := by
  constructor
  · intro h
    obtain ⟨domainName, hsplit, hname, hresolve⟩ := exists_of_parse h
    exact ⟨domainName, asks_iff.2 ⟨hsplit, hname⟩,
      Languages.resolveDomain_eq_ok_iff_finds.1 hresolve⟩
  · rintro ⟨domainName, hasks, hfinds⟩
    rw [parse_of_asks hasks, Languages.resolveDomain_eq_ok_iff_finds.2 hfinds]
    rfl

theorem parse_eq_error_iff_refused {error : Error} :
    parse languages code word = .error error ↔ Refused languages code word error := by
  constructor
  · intro h
    by_cases hasks : ∃ domain name, Asks word domain name
    · obtain ⟨domain, name, hasks⟩ := hasks
      rw [parse_of_asks hasks] at h
      cases hresolve : languages.resolveDomain code domain with
      | ok found => simp [hresolve, Except.map] at h
      | error found =>
        obtain rfl : found = error := by simpa [hresolve, Except.map] using h
        exact .unresolved hasks (Languages.resolveDomain_eq_error_iff_lacks.1 hresolve)
    · by_cases hname : LacksName word
      · rw [parse_of_lacksName hname] at h
        cases h
        exact .emptyName hname
      · rw [parse_of_not_lacksName hname hasks] at h
        cases h
        exact .shape hname hasks
  · intro h
    cases h with
    | emptyName hname => exact parse_of_lacksName hname languages code
    | shape hname hasks => exact parse_of_not_lacksName hname hasks languages code
    | unresolved hasks hlacks =>
      rw [parse_of_asks hasks, Languages.resolveDomain_eq_error_iff_lacks.2 hlacks]
      rfl

end Placeholder

namespace Pattern

def Meaningful (languages : Languages) (code text : String) : Prop :=
  ∀ word, HasFragment text word → ∃ placeholder, Placeholder.Means languages code word placeholder

variable {languages : Languages} {code source : String} {pattern : Pattern}

theorem parse_eq_error_iff_refused {error : Error} :
    parse languages code source = .error error ↔
      ∃ before word after, source = before ++ braced word ++ after ∧ BraceFree word ∧
        Meaningful languages code before ∧ Placeholder.Refused languages code word error := by
  rw [parse_eq_error_iff]
  simp only [Placeholder.parse_eq_ok_iff_means, Placeholder.parse_eq_error_iff_refused]
  constructor
  · rintro ⟨front, word, back, hfragments, hfront, hrefused⟩
    have hmem : word ∈ fragments source := by simp [hfragments]
    have hword := braceFree_of_mem_fragments hmem
    obtain ⟨before, after, rfl, rfl, -⟩ := exists_of_fragments_eq_append hfragments
    exact ⟨before, word, after, rfl, hword,
      fun other hother => hfront other (mem_fragments_iff.2 hother), hrefused⟩
  · rintro ⟨before, word, after, rfl, hword, hbefore, hrefused⟩
    exact ⟨fragments before, word, fragments after, fragments_append_braced hword before after,
      fun other hother => hbefore other (mem_fragments_iff.1 hother), hrefused⟩

theorem exists_parse_iff :
    (∃ pattern, parse languages code source = .ok pattern) ↔ Meaningful languages code source := by
  constructor
  · rintro ⟨pattern, hparse⟩ word hword
    have parsed := parsed_of_parse hparse
    obtain ⟨place, hplace, rfl⟩ :=
      List.mem_map.1 (parsed.mem_words.2 (mem_fragments_iff.2 hword))
    exact ⟨place.2, Placeholder.parse_eq_ok_iff_means.1 (parsed.parse_eq place hplace)⟩
  · intro hmeaningful
    cases hparse : parse languages code source with
    | ok pattern => exact ⟨pattern, rfl⟩
    | error error =>
      obtain ⟨before, word, after, heq, hword, -, hrefused⟩ := parse_eq_error_iff_refused.1 hparse
      obtain ⟨placeholder, hmeans⟩ := hmeaningful word ⟨hword, before, after, heq⟩
      rw [← Placeholder.parse_eq_error_iff_refused,
        Placeholder.parse_eq_ok_iff_means.2 hmeans] at hrefused
      contradiction

theorem Parsed.exists_first (parsed : Parsed languages code source pattern)
    {front back : List (String × Placeholder)} {place : String × Placeholder}
    (hplaces : pattern.placeholders = front ++ place :: back) :
    ∃ before after, source = before ++ braced place.1 ++ after ∧
      ∀ word, HasFragment before word ↔ word ∈ front.map Prod.fst := by
  have hwords := parsed.words_eq
  rw [hplaces, List.map_append, List.map_cons, eq_comm] at hwords
  obtain ⟨earlier, later, hfragments, hearlier⟩ := exists_of_eraseDups_eq_append hwords
  obtain ⟨before, after, heq, rfl, -⟩ := exists_of_fragments_eq_append hfragments
  refine ⟨before, after, heq, fun word => ?_⟩
  rw [← hearlier, List.mem_eraseDups, mem_fragments_iff]

theorem map_placeholders_parse (languages : Languages) (code source : String) :
    (parse languages code source).map (·.placeholders) =
      (fragments source).eraseDups.mapM (readPlace languages code) := by
  rw [parse_eq]
  cases (fragments source).eraseDups.mapM (readPlace languages code) <;> rfl

/-- A source is a pattern exactly if each word between braces means a placeholder. The placeholders
are then those of the distinct words, in the order in which these first occur. A source is refused
for the first word that means none. What belongs to no fragment, as braces that stand alone or in
excess, is text: it could as well be left out. -/
theorem parse_decides_words (languages : Languages) (code source : String) :
    ((∃ pattern, parse languages code source = .ok pattern) ↔
      Meaningful languages code source) ∧
    (∀ pattern, parse languages code source = .ok pattern →
      pattern.source = source ∧ pattern.language = code ∧
      (pattern.placeholders.map Prod.fst).Nodup ∧
      (∀ word, word ∈ pattern.placeholders.map Prod.fst ↔ HasFragment source word) ∧
      ∀ front place back, pattern.placeholders = front ++ place :: back →
        Placeholder.Means languages code place.1 place.2 ∧
        ∃ before after, source = before ++ braced place.1 ++ after ∧
          ∀ word, HasFragment before word ↔ word ∈ front.map Prod.fst) ∧
    (∀ error, parse languages code source = .error error ↔
      ∃ before word after, source = before ++ braced word ++ after ∧ BraceFree word ∧
        Meaningful languages code before ∧ Placeholder.Refused languages code word error) ∧
    (parse languages code source).map (·.placeholders) =
      (parse languages code (String.join ((fragments source).map braced))).map
        (·.placeholders) := by
  refine ⟨exists_parse_iff, fun pattern hparse => ?_, fun error => parse_eq_error_iff_refused, ?_⟩
  · have parsed := parsed_of_parse hparse
    refine ⟨parsed.source_eq, parsed.language_eq, parsed.nodup_words, fun word => ?_, ?_⟩
    · rw [parsed.mem_words, mem_fragments_iff]
    · intro front place back hplaces
      have hplace : place ∈ pattern.placeholders := by simp [hplaces]
      exact ⟨Placeholder.parse_eq_ok_iff_means.1 (parsed.parse_eq place hplace),
        parsed.exists_first hplaces⟩
  · rw [map_placeholders_parse, map_placeholders_parse, fragments_join_braced]
    exact fun word hword => braceFree_of_mem_fragments hword

/-- Braces in excess do not hurt. A line break behind the parentheses does, and it is told even
where nobody knows the language. -/
theorem parse_decides_words_german :
    (∃ pattern, parse (Languages.ofLanguages Standard.languages) "de"
        ("\x7b" ++ braced "number(n)" ++ "\x7d" ++ braced "n" ++ braced "number(n)") =
        .ok pattern ∧
      pattern.placeholders.map Prod.fst = ["number(n)", "n"] ∧
      ∀ word, word ∈ pattern.placeholders.map Prod.fst ↔ HasFragment
        ("\x7b" ++ braced "number(n)" ++ "\x7d" ++ braced "n" ++ braced "number(n)") word) ∧
    ∃ before word after, braced "number(n)\n" = before ++ braced word ++ after ∧
      Placeholder.Refused (Languages.ofLanguages Standard.languages) "fr" word
        (.malformedPlaceholder "number(n)\n" .shape) := by
  have hparse : ∃ pattern, parse (Languages.ofLanguages Standard.languages) "de"
      ("\x7b" ++ braced "number(n)" ++ "\x7d" ++ braced "n" ++ braced "number(n)") =
        .ok pattern ∧ pattern.placeholders.map Prod.fst = ["number(n)", "n"] :=
    ⟨_, rfl, by decide +kernel⟩
  obtain ⟨pattern, hparse, hwords⟩ := hparse
  have haccepted := (parse_decides_words _ _ _).2.1 pattern hparse
  refine ⟨⟨pattern, hparse, hwords, haccepted.2.2.2.1⟩, ?_⟩
  have hrefused : parse (Languages.ofLanguages Standard.languages) "fr" (braced "number(n)\n") =
      .error (.malformedPlaceholder "number(n)\n" .shape) := rfl
  obtain ⟨before, word, after, heq, -, -, hword⟩ :=
    ((parse_decides_words _ _ _).2.2.1 _).1 hrefused
  exact ⟨before, word, after, heq, hword⟩

end Pattern

end Phrasebook
