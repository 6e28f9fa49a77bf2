import Phrasebook.Proofs.Placeholder.Tag

/-!
The form of a placeholder. A word that has it asks for a value name in a domain, and reading it
comes down to the resolution of that domain (`parse_of_asks`); a word that does not have it is
refused whatever the languages are (`exists_parse_of_not_asks`).
-/
namespace Phrasebook.Placeholder

/-- The word asks for the value of a name, as a value of a domain. -/
inductive Asks : String → String → String → Prop
  | bare {name : String} (hname : name ≠ "") (hbare : ¬ hasParenthesis name = true) :
      Asks name plainDomain name
  | applied {domain name : String} (hdomain : domain ≠ "") (hname : name ≠ "")
      (hdomainPlain : isPlain domain = true) (hnamePlain : isPlain name = true) :
      Asks (domain ++ "(" ++ name ++ ")") domain name

variable {languages : Languages} {code word domain name : String}

theorem splitWord_eq_ok_iff : splitWord word = .ok (domain, name) ↔
    word = name ∧ domain = plainDomain ∧ ¬ hasParenthesis word = true ∨
      word = domain ++ "(" ++ name ++ ")" ∧ domain ≠ "" ∧ isPlain domain = true ∧
        isPlain name = true := by
  constructor
  · intro h
    unfold splitWord at h
    split at h
    · split at h
      · next names hnames =>
        cases h
        obtain ⟨hchars, hdomainPlain, hnamePlain⟩ := application?_eq_some hnames
        have hword : word = domain ++ "(" ++ name ++ ")" := by
          rw [← String.toList_inj, hchars]
          simp
        refine .inr ⟨hword, ?_, hdomainPlain, hnamePlain⟩
        rintro rfl
        simp [hchars, application?, plainRun, isReserved] at hnames
      · contradiction
    · next hbare =>
      cases h
      exact .inl ⟨rfl, rfl, hbare⟩
  · rintro (⟨rfl, rfl, hbare⟩ | ⟨rfl, hdomain, hdomainPlain, hnamePlain⟩)
    · rw [splitWord, if_neg hbare]
    · have hchars : (domain ++ "(" ++ name ++ ")").toList =
          domain.toList ++ '(' :: (name.toList ++ [')']) := by
        simp
      have hopen : hasParenthesis (domain ++ "(" ++ name ++ ")") = true := by
        simp [hasParenthesis]
      rw [splitWord, if_pos hopen, hchars, application?_append hdomain hdomainPlain hnamePlain]

theorem asks_iff : Asks word domain name ↔ splitWord word = .ok (domain, name) ∧ name ≠ "" := by
  rw [splitWord_eq_ok_iff]
  constructor
  · intro h
    cases h with
    | bare hname hbare => exact ⟨.inl ⟨rfl, rfl, hbare⟩, hname⟩
    | applied hdomain hname hdomainPlain hnamePlain =>
      exact ⟨.inr ⟨rfl, hdomain, hdomainPlain, hnamePlain⟩, hname⟩
  · rintro ⟨⟨rfl, rfl, hbare⟩ | ⟨rfl, hdomain, hdomainPlain, hnamePlain⟩, hname⟩
    · exact .bare hname hbare
    · exact .applied hdomain hname hdomainPlain hnamePlain

theorem parse_of_asks (h : Asks word domain name) :
    parse languages code word =
      (languages.resolveDomain code domain).map fun domain => { name, domain } := by
  obtain ⟨hsplit, hname⟩ := asks_iff.1 h
  rw [parse, hsplit]
  simp only [bind, Except.bind, if_neg hname]
  cases languages.resolveDomain code domain <;> rfl

def LacksName (word : String) : Prop :=
  word = "" ∨ ∃ domain, domain ≠ "" ∧ isPlain domain = true ∧ word = domain ++ "()"

theorem lacksName_iff : LacksName word ↔ ∃ domain, splitWord word = .ok (domain, "") := by
  have happlied (domain : String) : domain ++ "(" ++ "" ++ ")" = domain ++ "()" := by
    simp [String.append_assoc]
  simp only [splitWord_eq_ok_iff, happlied]
  constructor
  · rintro (rfl | ⟨domain, hdomain, hplain, rfl⟩)
    · exact ⟨plainDomain, .inl ⟨rfl, rfl, by decide⟩⟩
    · exact ⟨domain, .inr ⟨rfl, hdomain, hplain, by decide⟩⟩
  · rintro ⟨domain, ⟨rfl, -, -⟩ | ⟨rfl, hdomain, hplain, -⟩⟩
    · exact .inl rfl
    · exact .inr ⟨domain, hdomain, hplain, rfl⟩

theorem parse_of_lacksName (h : LacksName word) (languages : Languages) (code : String) :
    parse languages code word = .error (.malformedPlaceholder word .emptyName) := by
  obtain ⟨domain, hsplit⟩ := lacksName_iff.1 h
  rw [parse, hsplit]
  rfl

theorem parse_of_not_lacksName (hname : ¬ LacksName word)
    (hasks : ¬ ∃ domain name, Asks word domain name) (languages : Languages) (code : String) :
    parse languages code word = .error (.malformedPlaceholder word .shape) := by
  cases hsplit : splitWord word with
  | error error =>
    rw [parse, hsplit, eq_of_splitWord_eq_error hsplit]
    rfl
  | ok names =>
    obtain ⟨domain, name⟩ := names
    obtain rfl : name = "" := by
      by_contra hne
      exact hasks ⟨domain, name, asks_iff.2 ⟨hsplit, hne⟩⟩
    exact absurd (lacksName_iff.2 ⟨domain, hsplit⟩) hname

theorem exists_parse_of_not_asks (h : ¬ ∃ domain name, Asks word domain name) :
    ∃ fault, ∀ languages code,
      parse languages code word = .error (.malformedPlaceholder word fault) := by
  by_cases hname : LacksName word
  · exact ⟨.emptyName, parse_of_lacksName hname⟩
  · exact ⟨.shape, parse_of_not_lacksName hname h⟩

end Phrasebook.Placeholder
