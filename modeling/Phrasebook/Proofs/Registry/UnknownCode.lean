import Phrasebook.CommandLine.Run
import Phrasebook.Proofs.Language.Chain
import Phrasebook.Proofs.Pattern.Faults
import Phrasebook.Proofs.Placeholder.Form
import Phrasebook.Proofs.Registry.Update

/-!
Codes that nothing stands for. Rendering refuses them at once. Patterns and keys come to know only
when the domain of the first placeholder is looked up, so that a source without placeholders is
taken for one of such a language, and one whose first placeholder has no proper form is refused for
that (`refuses_unknown_code_iff`). The command line inherits the difference.
-/
namespace Phrasebook

/-- The first placeholder of the source, if it has one, has the form of one. -/
def AsksFirst (source : String) : Prop :=
  ∃ word, (fragments source).head? = some word ∧ ∃ domain name, Placeholder.Asks word domain name

theorem Languages.resolveDomain_of_not_mem {languages : Languages} {code : String}
    (h : code ∉ languages) (name : String) :
    languages.resolveDomain code name = .error (.unknownLanguage code) := by
  unfold resolveDomain
  rw [chain_of_not_mem h]
  rfl

namespace Pattern

variable {languages : Languages} {code source word : String}

theorem parse_of_fragments_eq_nil (h : fragments source = []) (languages : Languages)
    (code : String) :
    parse languages code source = .ok { source, language := code, placeholders := [] } := by
  rw [parse, h]
  rfl

theorem parse_of_head?_eq_error (hword : (fragments source).head? = some word) {error : Error}
    (h : Placeholder.parse languages code word = .error error) :
    parse languages code source = .error error := by
  obtain ⟨rest, hrest⟩ := List.head?_eq_some_iff.1 hword
  rw [parse_eq_error_iff, hrest, First.cons_iff]
  exact Or.inl h

theorem exists_parse_of_not_asks (hword : (fragments source).head? = some word)
    (h : ¬ ∃ domain name, Placeholder.Asks word domain name) (languages : Languages)
    (code : String) :
    ∃ fault, parse languages code source = .error (.malformedPlaceholder word fault) := by
  obtain ⟨fault, hparse⟩ := Placeholder.exists_parse_of_not_asks h
  exact ⟨fault, parse_of_head?_eq_error hword (hparse languages code)⟩

theorem parse_of_not_mem (h : code ∉ languages) (hasks : AsksFirst source) :
    parse languages code source = .error (.unknownLanguage code) := by
  obtain ⟨word, hword, domain, name, hasks⟩ := hasks
  refine parse_of_head?_eq_error hword ?_
  rw [Placeholder.parse_of_asks hasks, Languages.resolveDomain_of_not_mem h]
  rfl

theorem parse_eq_unknownLanguage_iff (h : code ∉ languages) :
    parse languages code source = .error (.unknownLanguage code) ↔ AsksFirst source := by
  refine ⟨fun hparse => ?_, parse_of_not_mem h⟩
  cases hword : (fragments source).head? with
  | none =>
    rw [parse_of_fragments_eq_nil (List.head?_eq_none_iff.1 hword)] at hparse
    contradiction
  | some word =>
    refine ⟨word, hword, ?_⟩
    by_contra hasks
    obtain ⟨fault, hfault⟩ := exists_parse_of_not_asks hword hasks languages code
    rw [hfault] at hparse
    simp at hparse

end Pattern

namespace Registry

variable {registry : Registry} {code source : String}

theorem fst_render_of_not_mem (h : code ∉ registry.languages) (source : String) (values : Values) :
    (registry.render code source values).1 = .error (.unknownLanguage code) := by
  unfold render rendering
  rw [language_bind_of_not_mem _ h]
  rfl

theorem translationKeys_of_pattern {pattern : Pattern}
    (h : registry.pattern code source = .ok pattern) :
    registry.translationKeys code source = .ok pattern.keys := by
  rw [translationKeys, h]
  rfl

theorem translationKeys_eq_error_iff {error : Error} :
    registry.translationKeys code source = .error error ↔
      registry.pattern code source = .error error := by
  unfold translationKeys
  cases registry.pattern code source <;> simp [bind, Except.bind, pure, Except.pure]

theorem fallbackChain_of_not_mem (h : code ∉ registry.languages) :
    registry.fallbackChain code = .error (.unknownLanguage code) := by
  unfold fallbackChain
  rw [Languages.chain_of_not_mem h]
  rfl

end Registry

namespace CommandLine

structure FailsWith (outcome : Outcome) (tree : FileTree) (error : Error) : Prop where
  exitCode : outcome.exitCode = 1
  output : outcome.output = ""
  errors : outcome.errors = lines ["Error: " ++ error.message]
  tree : outcome.tree = tree

variable {settings : Settings} {tree : FileTree} {invocation : Invocation} {code : String}

theorem extract_of_not_mem (h : code ∉ (Registry.standard .passthrough).languages) (tree : FileTree)
    (folder codebase callee : String) (options : ExtractionOptions) :
    extract tree folder code codebase callee options =
      (tree, .error (.language (.unknownLanguage code))) := by
  have hcontains : (Registry.standard .passthrough).languages.contains code = false := by
    rwa [← Bool.not_eq_true, ← Std.ExtTreeMap.mem_iff_contains]
  unfold extract extracted
  simp only [hcontains]
  rfl

theorem render_of_not_mem (h : code ∉ (Registry.standard .passthrough).languages) (tree : FileTree)
    (mode : RenderMode) (folder source values : String) :
    render tree mode folder code source values =
      .error (.file (.language (.unknownLanguage code))) := by
  have hchain : (Registry.standard mode).fallbackChain code = .error (.unknownLanguage code) :=
    Registry.fallbackChain_of_not_mem h
  unfold render Registry.loadChain
  rw [hchain]
  rfl

theorem keys_eq (code source : String) :
    keys code source =
      (liftError ((Registry.standard .passthrough).translationKeys code source)).map lines := by
  unfold keys
  dsimp only
  cases (Registry.standard .passthrough).translationKeys code source <;> rfl

theorem failsWith_fail {failure : Failure} {error : Error} (h : failure.message = error.message)
    (notes : List Note) : FailsWith { fail tree failure with notes } tree error where
  exitCode := rfl
  output := rfl
  errors := by rw [fail, h]
  tree := rfl

theorem failsWith_extract (h : code ∉ (Registry.standard .passthrough).languages)
    (hlanguage : (invocation.language <|> settings.language) = some code) {codebase : String}
    {callee : Option String} {options : ExtractionOptions}
    (haction : invocation.action = .extract codebase callee options) :
    FailsWith (execute settings tree invocation) tree (.unknownLanguage code) := by
  unfold execute
  simp only [hlanguage, haction, extract_of_not_mem h]
  exact failsWith_fail rfl _

theorem failsWith_render (h : code ∉ (Registry.standard .passthrough).languages)
    (hlanguage : (invocation.language <|> settings.language) = some code) {source values : String}
    {strict : Bool} (haction : invocation.action = .render source values strict) :
    FailsWith (execute settings tree invocation) tree (.unknownLanguage code) := by
  unfold execute
  simp only [hlanguage, haction, render_of_not_mem h]
  exact failsWith_fail rfl _

theorem execute_keys (hlanguage : (invocation.language <|> settings.language) = some code)
    {source : String} (haction : invocation.action = .keys source) (tree : FileTree) :
    execute settings tree invocation = ofExcept tree
      ((liftError ((Registry.standard .passthrough).translationKeys code source)).map lines) := by
  unfold execute
  simp only [hlanguage, haction, keys_eq]

theorem failsWith_keys (hlanguage : (invocation.language <|> settings.language) = some code)
    {source : String} (haction : invocation.action = .keys source) {error : Error}
    (h : (Registry.standard .passthrough).translationKeys code source = .error error) :
    FailsWith (execute settings tree invocation) tree error := by
  rw [execute_keys hlanguage haction, h]
  exact failsWith_fail rfl []

end CommandLine

open CommandLine Registry

/-- Keys of an unknown code are refused only where the source asks for something. -/
theorem refuses_unknown_code_iff {registry : Registry} {code : String}
    (h : code ∉ registry.languages) (source : String) :
    (∀ values, (registry.render code source values).1 = .error (.unknownLanguage code)) ∧
    (registry.pattern code source = .error (.unknownLanguage code) ↔ AsksFirst source) ∧
    (registry.translationKeys code source = .error (.unknownLanguage code) ↔ AsksFirst source) ∧
    (fragments source = [] →
      registry.pattern code source = .ok { source, language := code, placeholders := [] } ∧
      registry.translationKeys code source = .ok [source]) ∧
    (∀ word, (fragments source).head? = some word →
      (¬ ∃ domain name, Placeholder.Asks word domain name) →
      ∃ fault, registry.pattern code source = .error (.malformedPlaceholder word fault) ∧
        registry.translationKeys code source = .error (.malformedPlaceholder word fault)) ∧
    ∀ (settings : Settings) (tree : FileTree) (invocation : Invocation),
      (invocation.language <|> settings.language) = some code →
      code ∉ (standard .passthrough).languages →
        (∀ codebase callee options, invocation.action = .extract codebase callee options →
          FailsWith (execute settings tree invocation) tree (.unknownLanguage code)) ∧
        (∀ values strict, invocation.action = .render source values strict →
          FailsWith (execute settings tree invocation) tree (.unknownLanguage code)) ∧
        (invocation.action = .keys source →
          (AsksFirst source →
            FailsWith (execute settings tree invocation) tree (.unknownLanguage code)) ∧
          (fragments source = [] →
            execute settings tree invocation = succeed tree (lines [source]))) := by
  refine ⟨?_, ?_, ?_, ?_, ?_, fun settings tree invocation hlanguage hcode => ⟨?_, ?_, ?_⟩⟩
  · exact fst_render_of_not_mem h source
  · exact Pattern.parse_eq_unknownLanguage_iff h
  · rw [translationKeys_eq_error_iff]
    exact Pattern.parse_eq_unknownLanguage_iff h
  · intro hnil
    have hpattern := Pattern.parse_of_fragments_eq_nil hnil registry.languages code
    exact ⟨hpattern, translationKeys_of_pattern hpattern⟩
  · intro word hword hasks
    obtain ⟨fault, hpattern⟩ :=
      Pattern.exists_parse_of_not_asks hword hasks registry.languages code
    exact ⟨fault, hpattern, translationKeys_eq_error_iff.2 hpattern⟩
  · intro codebase callee options haction
    exact failsWith_extract hcode hlanguage haction
  · intro values strict haction
    exact failsWith_render hcode hlanguage haction
  · refine fun haction => ⟨fun hasks => ?_, fun hnil => ?_⟩
    · exact failsWith_keys hlanguage haction
        (translationKeys_eq_error_iff.2 (Pattern.parse_of_not_mem hcode hasks))
    · rw [execute_keys hlanguage haction, translationKeys_of_pattern
        (Pattern.parse_of_fragments_eq_nil hnil _ code)]
      rfl

/-- A French number is refused, but the keys of a French greeting are not. -/
theorem refuses_unknown_code_iff_french :
    "fr" ∉ (standard .strict).languages ∧
      (standard .strict).translationKeys "fr" (braced "number(n)") =
        .error (.unknownLanguage "fr") ∧
      (standard .strict).translationKeys "fr" "Salut" ≠ .error (.unknownLanguage "fr") := by
  have hunknown : "fr" ∉ (standard .strict).languages := by decide +kernel
  have hnumber := refuses_unknown_code_iff hunknown (braced "number(n)")
  have hgreeting := refuses_unknown_code_iff hunknown "Salut"
  refine ⟨hunknown, hnumber.2.2.1.2 ?_, ?_⟩
  · exact ⟨"number(n)", rfl, "number", "n", Placeholder.asks_iff.2 ⟨rfl, by decide⟩⟩
  · rw [(hgreeting.2.2.2.1 (by decide)).2]
    simp

/-- Keys, patterns and the command for keys accept a language that nobody knows, or complain about
something else; rendering refuses it. -/
theorem unknown_code_has_keys :
    "fr" ∉ (standard .passthrough).languages ∧
      (standard .passthrough).translationKeys "fr" "Hello" = .ok ["Hello"] ∧
      (standard .passthrough).pattern "fr" "Hello" =
        .ok { source := "Hello", language := "fr", placeholders := [] } ∧
      (standard .passthrough).translationKeys "fr" (braced "") =
        .error (.malformedPlaceholder "" .emptyName) ∧
      ((standard .passthrough).render "fr" "Hello" ∅).1 = .error (.unknownLanguage "fr") ∧
      execute (Settings.ofVariables fun _ => none) {}
        { language := some "fr", folder := none, action := .keys "Hello" } =
          succeed {} "Hello\n" :=
  ⟨by decide +kernel, rfl, rfl, rfl, rfl, rfl⟩

end Phrasebook
