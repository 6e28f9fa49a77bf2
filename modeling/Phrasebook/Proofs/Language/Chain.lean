import Phrasebook.Proofs.Language.Resolution

/-!
Chains in a changed set of languages. A chain depends on the other languages only through the
parents that are met on the way: where these are revised one by one, the chain consists of the
revised languages (`chain_of_revised`), and a new language that nobody falls back to leaves it as it
was (`chain_add_of_ne`). The chain of the new language itself is that of its parent with one more
language in front, as far as the limit allows it (`chain_add_self`).
-/
namespace Phrasebook.Languages

variable {languages languages' : Languages} {language : Language}

theorem knows_of_parent? {parent : Language} (h : languages.parent? language = some parent) :
    languages.Knows parent := by
  obtain ⟨code, -, hcode⟩ := Option.bind_eq_some_iff.1 h
  exact ⟨code, hcode⟩

theorem lineage?_of_revised (revise : Language → Language)
    (hparent : ∀ other, languages.Knows other →
      languages'.parent? (revise other) = (languages.parent? other).map revise)
    (hknown : languages.Knows language) (limit : Nat) :
    languages'.lineage? limit (revise language) =
      (languages.lineage? limit language).map (List.map revise) := by
  induction limit generalizing language with
  | zero => rfl
  | succ limit ih =>
    rw [lineage?, lineage?, hparent language hknown]
    cases hfound : languages.parent? language with
    | none => rfl
    | some parent =>
      simp only [Option.map_some, ih (knows_of_parent? hfound), Option.map_map]
      rfl

theorem chain_of_revised {revise : Language → Language}
    (hparent : ∀ other, languages.Knows other →
      languages'.parent? (revise other) = (languages.parent? other).map revise)
    {code : String} (hcode : languages'[code]? = languages[code]?.map revise) :
    languages'.chain code = (languages.chain code).map (List.map revise) := by
  unfold chain
  rw [hcode]
  cases hknown : languages[code]? with
  | none => rfl
  | some language =>
    simp only [Option.map_some, lineage?_of_revised revise hparent ⟨code, hknown⟩]
    cases languages.lineage? chainLimit language <;> rfl

theorem lineage?_eq_ite {limit : Nat} {found : List Language}
    (h : languages.lineage? limit language = some found) (limit' : Nat) :
    languages.lineage? limit' language = if found.length ≤ limit' then some found else none := by
  induction limit' generalizing limit language found with
  | zero =>
    obtain ⟨rest, rfl⟩ := List.head?_eq_some_iff.1 (head?_lineage? h)
    rfl
  | succ limit' ih =>
    cases limit with
    | zero => contradiction
    | succ limit =>
      rw [lineage?] at h ⊢
      cases hparent : languages.parent? language with
      | none =>
        rw [hparent] at h
        cases h
        simp
      | some parent =>
        rw [hparent] at h
        obtain ⟨rest, hrest, rfl⟩ := Option.map_eq_some_iff.1 h
        simp only [ih hrest, List.length_cons, Nat.add_le_add_iff_right]
        split <;> rfl

theorem chain_eq_ok {code : String} {found : List Language} :
    languages.chain code = .ok found ↔
      ∃ language, languages[code]? = some language ∧
        languages.lineage? chainLimit language = some found := by
  unfold chain
  cases languages[code]? with
  | none => simp
  | some language =>
    simp only [Option.some.injEq, exists_eq_left']
    cases languages.lineage? chainLimit language <;> simp

theorem chain_of_not_mem {code : String} (h : code ∉ languages) :
    languages.chain code = .error (.unknownLanguage code) := by
  unfold chain
  rw [Std.ExtTreeMap.getElem?_eq_none h]

theorem error_of_chain {code : String} {error : Error} (h : languages.chain code = .error error) :
    error = .unknownLanguage code ∨ error = .chainTooLong code chainLimit := by
  unfold chain at h
  split at h
  · exact Or.inl (Except.error.inj h).symm
  · split at h
    · contradiction
    · exact Or.inr (Except.error.inj h).symm

section

variable {added : Language}

theorem getElem?_add (languages : Languages) (added : Language) (code : String) :
    (languages.add added)[code]? = if added.code = code then some added else languages[code]? := by
  simp [add, Std.ExtTreeMap.getElem?_insert]

theorem parent?_add (h : language.fallback ≠ some added.code) :
    (languages.add added).parent? language = languages.parent? language := by
  unfold parent?
  cases hfallback : language.fallback with
  | none => rfl
  | some code =>
    have hne : added.code ≠ code := fun heq => h (heq ▸ hfallback)
    rw [Option.bind_some, Option.bind_some, getElem?_add, if_neg hne]

theorem lineage?_add (hunnamed : ∀ other, languages.Knows other → other.fallback ≠ some added.code)
    (hknown : languages.Knows language) (limit : Nat) :
    (languages.add added).lineage? limit language = languages.lineage? limit language := by
  have hrevised := lineage?_of_revised id
    (fun other hother => (parent?_add (hunnamed other hother)).trans Option.map_id_apply.symm)
    hknown limit
  simpa using hrevised

theorem chain_add_of_ne
    (hunnamed : ∀ other, languages.Knows other → other.fallback ≠ some added.code) {code : String}
    (hne : code ≠ added.code) : (languages.add added).chain code = languages.chain code := by
  unfold chain
  rw [getElem?_add, if_neg hne.symm]
  cases hknown : languages[code]? with
  | none => rfl
  | some language => simp only [lineage?_add hunnamed ⟨code, hknown⟩]

theorem chain_add_self
    (hunnamed : ∀ other, languages.Knows other → other.fallback ≠ some added.code)
    {parent : String} (hfallback : added.fallback = some parent) (hne : parent ≠ added.code)
    {found : List Language} (hfound : languages.chain parent = .ok found) :
    (languages.add added).chain added.code =
      if found.length < chainLimit then .ok (added :: found)
      else .error (.chainTooLong added.code chainLimit) := by
  obtain ⟨language, hlanguage, hlineage⟩ := chain_eq_ok.1 hfound
  have hparent : (languages.add added).parent? added = some language := by
    rw [parent?, hfallback, Option.bind_some, getElem?_add, if_neg hne.symm, hlanguage]
  have hadded : (languages.add added).lineage? chainLimit added =
      if found.length < chainLimit then some (added :: found) else none := by
    rw [chainLimit, lineage?, hparent]
    simp only [lineage?_add hunnamed ⟨parent, hlanguage⟩, lineage?_eq_ite hlineage,
      Nat.lt_succ_iff]
    split <;> rfl
  rw [chain, getElem?_add, if_pos rfl]
  by_cases hlength : found.length < chainLimit <;> simp [hadded, hlength]

end

end Phrasebook.Languages
