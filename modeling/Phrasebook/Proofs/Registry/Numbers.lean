import Phrasebook.Proofs.Json.Numeral
import Phrasebook.Proofs.Language.Numbers
import Phrasebook.Proofs.Placeholder.Form
import Phrasebook.Proofs.Registry.Decision
import Phrasebook.Proofs.Text.Fragment

/-!
Whole numbers in renderings. Where nothing is translated, a placeholder before a text without braces
is rendered as its value and that text (`fst_render_braced_append`). So a whole number of at most
`2 ^ 53` comes out with exactly its digits, however it was handed in (`whole_numbers_are_exact`).
-/
namespace Phrasebook

namespace Pattern

def single (code word rest : String) (placeholder : Placeholder) : Pattern :=
  { source := braced word ++ rest, language := code, placeholders := [(word, placeholder)] }

variable {languages : Languages} {code word rest : String} {placeholder : Placeholder}

theorem fragments_braced_append (hword : BraceFree word) (hrest : BraceFree rest) :
    fragments (braced word ++ rest) = [word] := by
  have h := fragments_append_braced hword "" rest
  rwa [String.empty_append, fragments_of_braceFree hrest] at h

theorem parsed_single (hword : BraceFree word) (hrest : BraceFree rest)
    (hparse : Placeholder.parse languages code word = .ok placeholder) :
    Parsed languages code (braced word ++ rest) (single code word rest placeholder) where
  source_eq := rfl
  language_eq := rfl
  words_eq := by
    rw [fragments_braced_append hword hrest]
    rfl
  parse_eq place hplace := by
    obtain rfl := List.mem_singleton.1 hplace
    exact hparse

theorem exists_lookupKey_single {values : Values} (haccepts : placeholder.Accepts values) :
    ∃ key, (single code word rest placeholder).lookupKey values = .ok key := by
  obtain ⟨tag, htag⟩ := Placeholder.exists_tagFor_of_accepts haccepts
  refine ⟨replaceWord word tag (braced word ++ rest), ?_⟩
  simp only [lookupKey, single, selectKey, htag]
  rfl

end Pattern

namespace Registry

structure Untranslating (registry : Registry) : Prop where
  catalog_eq : ∀ code catalog, registry.catalog? code = some catalog → catalog = ∅
  mode_eq : registry.mode = .passthrough

namespace Untranslating

theorem empty : ({ mode := .passthrough } : Registry).Untranslating where
  catalog_eq code catalog h := by simp [catalog?] at h
  mode_eq := rfl

variable {registry : Registry}

theorem register (h : registry.Untranslating) (language : Language) :
    (registry.register language).Untranslating where
  catalog_eq code catalog hcatalog := by
    rw [catalog?_register] at hcatalog
    split at hcatalog
    · cases hold : registry.catalog? code with
      | none => simpa [hold, eq_comm] using hcatalog
      | some old => simpa [hold, h.catalog_eq code old hold, eq_comm] using hcatalog
    · exact h.catalog_eq code catalog hcatalog
  mode_eq := h.mode_eq

theorem standard : (standard .passthrough).Untranslating :=
  ((((empty.register _).register _).register _).register _).register _

theorem localText?_eq_none (h : registry.Untranslating) (code key : String) :
    registry.localText? code key = none := by
  unfold localText?
  cases hcatalog : registry.catalog? code with
  | none => rfl
  | some catalog =>
    rw [h.catalog_eq code catalog hcatalog, Option.bind_eq_bind, Option.bind_some]
    exact Std.ExtTreeMap.getElem?_empty

end Untranslating

variable {registry : Registry} {code word rest : String} {placeholder : Placeholder}
  {values : Values} {value : Value}

theorem fst_render_braced_append (h : registry.Untranslating) (hcode : code ∈ registry.languages)
    (hword : BraceFree word) (hrest : BraceFree rest)
    (hparse : Placeholder.parse registry.languages code word = .ok placeholder)
    (hvalue : values[placeholder.name]? = some value) (hundefined : value ≠ .undefined)
    {category : Category} (hclassify : placeholder.domain.classify value = .ok category) :
    (registry.render code (braced word ++ rest) values).1 =
      .ok (placeholder.domain.format value ++ rest) := by
  have haccepts : placeholder.Accepts values :=
    ⟨value, hvalue, category, Domain.mem_categories_of_classify hclassify,
      Domain.covers_of_classify hclassify⟩
  obtain ⟨key, hkey⟩ := Pattern.exists_lookupKey_single haccepts
  have hreplaced : replaceFragments (fun _ => placeholder.domain.format value)
      (braced word ++ rest) = placeholder.domain.format value ++ rest := by
    rw [replaceFragments_braced_append hword, replaceFragments_of_braceFree hrest]
  rw [← hreplaced]
  refine fst_render_of_renders hcode (.passedThrough (Pattern.parsed_single hword hrest hparse) hkey
    (fun _ _ _ _ => h.localText?_eq_none _ _) h.mode_eq ?_ ?_)
  · intro place hplace hnone
    obtain rfl := List.mem_singleton.1 hplace
    exact absurd (Option.some.inj (hvalue.symm.trans hnone)) hundefined
  · intro place hplace other hother _
    obtain rfl := List.mem_singleton.1 hplace
    rw [Option.some.inj (hvalue.symm.trans hother)]

def numberWord (name : String) : String :=
  "number(" ++ name ++ ")"

theorem braceFree_numberWord {name : String} (h : isPlain name = true) :
    BraceFree (numberWord name) := by
  rw [numberWord, braceFree_append, braceFree_append]
  exact ⟨⟨by decide, braceFree_of_isPlain h⟩, by decide⟩

theorem asks_numberWord {name : String} (hname : name ≠ "") (hplain : isPlain name = true) :
    Placeholder.Asks (numberWord name) "number" name := by
  have hword : numberWord name = "number" ++ "(" ++ name ++ ")" := rfl
  rw [hword]
  exact .applied (by decide) hname (by decide) hplain

theorem fst_render_number (h : registry.Untranslating) (hstandard : registry.languages.HasStandard)
    {language : Language} (hlanguage : language ∈ Standard.languages) {name : String}
    (hname : name ≠ "") (hplain : isPlain name = true) (hrest : BraceFree rest) {k : Int}
    (hk : k.natAbs ≤ 2 ^ 53) (hvalue : values[name]? = some (.number (.ofInt k))) :
    (registry.render language.code (braced (numberWord name) ++ rest) values).1 =
      .ok (toString k ++ rest) := by
  have hcode : language.code ∈ registry.languages := by
    rw [← Std.ExtTreeMap.isSome_getElem?_iff_mem, hstandard language hlanguage]
    rfl
  have hparse : Placeholder.parse registry.languages language.code (numberWord name) =
      .ok { name, domain := Standard.numberDomain language.code } := by
    rw [Placeholder.parse_of_asks (asks_numberWord hname hplain),
      Standard.resolveDomain_number hstandard hlanguage]
    rfl
  obtain ⟨category, hclassify, -⟩ := Standard.exists_classify_number language.code hk
  rw [fst_render_braced_append h hcode (braceFree_numberWord hplain) hrest hparse hvalue (by simp)
    hclassify, Standard.format_numberDomain, Number.text_ofInt hk]

/-- However a whole number is handed in, it keeps all of its digits up to `2 ^ 53`: in what is shown
of it, in what it is rendered as, and in the category that it belongs to. The numeral `-0` is not
the text of a whole number. -/
theorem whole_numbers_are_exact {k : Int} (hk : k.natAbs ≤ 2 ^ 53) :
    (∀ count : Nat, (count : Int) = k → Number.ofNat count = .ofInt k) ∧
    (∃ json, Json.ofText? (toString k) = some json ∧ Value.ofJson json = .number (.ofInt k)) ∧
    (Value.number (.ofInt k)).display = toString k ∧
    (∀ registry : Registry, registry.Untranslating → registry.languages.HasStandard →
      ∀ language ∈ Standard.languages, ∀ (name rest : String) (values : Values),
        name ≠ "" → isPlain name = true → BraceFree rest →
        values[name]? = some (.number (.ofInt k)) →
        (registry.render language.code (braced ("number(" ++ name ++ ")") ++ rest) values).1 =
          .ok (toString k ++ rest)) ∧
    ∀ languages : Languages, languages.HasStandard → ∀ language ∈ Standard.languages,
      ∃ domain category, languages.resolveDomain language.code "number" = .ok domain ∧
        domain.classify (.number (.ofInt k)) = .ok category ∧
        (category.name = "one" ↔ k = 1) ∧
        (language.code = "root" → (category.name = "zero" ↔ k = 0)) := by
  refine ⟨?_, ?_, Number.text_ofInt hk, ?_, ?_⟩
  · rintro count rfl
    exact Number.ofNat_eq_ofInt count
  · exact ⟨.integer k, Json.ofText?_toString (by omega) (by omega), rfl⟩
  · intro registry hbare hstandard language hlanguage name rest values hname hplain hrest hvalue
    exact fst_render_number hbare hstandard hlanguage hname hplain hrest hk hvalue
  · intro languages hstandard language hlanguage
    obtain ⟨category, hclassify, hcategory⟩ := Standard.exists_classify_number language.code hk
    exact ⟨_, category, Standard.resolveDomain_number hstandard hlanguage, hclassify, hcategory⟩

/-- The last number in either direction, in German and in the root. -/
theorem whole_numbers_are_exact_last :
    (2 ^ 53 : Int).natAbs ≤ 2 ^ 53 ∧ (-2 ^ 53 : Int).natAbs ≤ 2 ^ 53 ∧
      ((standard .passthrough).render "de" (braced "number(x)" ++ " Dateien")
        {("x", .number (.ofInt (-2 ^ 53)))}).1 = .ok "-9007199254740992 Dateien" ∧
      ∃ json domain category, Json.ofText? "9007199254740992" = some json ∧
        Value.ofJson json = .number (.ofNat (2 ^ 53)) ∧
        (standard .passthrough).languages.resolveDomain "root" "number" = .ok domain ∧
        domain.classify (Value.ofJson json) = .ok category ∧ category.name ≠ "one" ∧
        category.name ≠ "zero" := by
  have hhigh : (2 ^ 53 : Int).natAbs ≤ 2 ^ 53 := by decide
  have hlow : (-2 ^ 53 : Int).natAbs ≤ 2 ^ 53 := by decide
  have hstandard : (standard .passthrough).languages.HasStandard :=
    Languages.hasStandard_ofLanguages
  have hgerman : Standard.german ∈ Standard.languages := by simp [Standard.languages]
  have hroot : Standard.root ∈ Standard.languages := by simp [Standard.languages]
  refine ⟨hhigh, hlow, ?_, ?_⟩
  · exact (whole_numbers_are_exact hlow).2.2.2.1 _ .standard hstandard _ hgerman "x" " Dateien" _
      (by decide) (by decide) (by decide) (by simp)
  · obtain ⟨hcount, ⟨json, hjson, hread⟩, -, -, hclassify⟩ := whole_numbers_are_exact hhigh
    obtain ⟨domain, category, hdomain, hcategory, hone, hzero⟩ :=
      hclassify _ hstandard _ hroot
    refine ⟨json, domain, category, hjson, ?_, hdomain, ?_, ?_, ?_⟩
    · rw [hread, hcount (2 ^ 53) (by decide)]
    · rw [hread, hcategory]
    · rw [Ne, hone]
      decide
    · rw [Ne, hzero rfl]
      decide

end Registry

end Phrasebook
