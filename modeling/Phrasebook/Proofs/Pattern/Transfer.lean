import Phrasebook.Proofs.Pattern.Reading

/-!
Reading a pattern asks the languages for domains and for nothing else. Where the domains of one
language are resolved like those of another, up to how the errors are told, its patterns are read
like those of the other (`Pattern.parse_of_mapError`).
-/
namespace Phrasebook

variable {languages languages' : Languages} {code code' : String} {tell : Error → Error}

theorem mapM_of_mapError {α β : Type} {read read' : α → Except Error β}
    (h : ∀ input, read' input = (read input).mapError tell) (inputs : List α) :
    inputs.mapM read' = (inputs.mapM read).mapError tell := by
  induction inputs with
  | nil => rfl
  | cons input inputs ih =>
    rw [List.mapM_cons, List.mapM_cons, h, ih]
    cases read input with
    | error error => rfl
    | ok output => cases inputs.mapM read <;> rfl

namespace Placeholder

theorem parse_of_mapError
    (hmalformed : ∀ word fault,
      tell (.malformedPlaceholder word fault) = .malformedPlaceholder word fault)
    (hresolve : ∀ name,
      languages'.resolveDomain code' name = (languages.resolveDomain code name).mapError tell)
    (word : String) : parse languages' code' word = (parse languages code word).mapError tell := by
  unfold parse
  cases hsplit : splitWord word with
  | error error =>
    obtain rfl := eq_of_splitWord_eq_error hsplit
    exact congrArg Except.error (hmalformed word .shape).symm
  | ok names =>
    obtain ⟨domainName, name⟩ := names
    by_cases hname : name = ""
    · simp only [bind, Except.bind, hname, if_true]
      exact congrArg Except.error (hmalformed word .emptyName).symm
    · simp only [bind, Except.bind, hname, if_false, hresolve]
      cases languages.resolveDomain code domainName <;> rfl

end Placeholder

namespace Pattern

theorem parse_of_mapError
    (hmalformed : ∀ word fault,
      tell (.malformedPlaceholder word fault) = .malformedPlaceholder word fault)
    (hresolve : ∀ name,
      languages'.resolveDomain code' name = (languages.resolveDomain code name).mapError tell)
    (source : String) :
    parse languages' code' source =
      ((parse languages code source).mapError tell).map ({ · with language := code' }) := by
  have hplace (word : String) :
      readPlace languages' code' word = (readPlace languages code word).mapError tell := by
    unfold readPlace
    rw [Placeholder.parse_of_mapError hmalformed hresolve]
    cases Placeholder.parse languages code word <;> rfl
  rw [parse_eq, parse_eq, mapM_of_mapError hplace]
  cases (fragments source).eraseDups.mapM (readPlace languages code) <;> rfl

end Pattern

end Phrasebook
