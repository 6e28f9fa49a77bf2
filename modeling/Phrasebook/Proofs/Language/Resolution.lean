import Phrasebook.Language.Standard
import Phrasebook.Proofs.Text.Segmentation

/-!
Where the domains that a look-up along a fallback chain finds come from: a known language has them
under the name asked for. What holds of all domains of the known languages therefore holds of every
domain that a placeholder can have.
-/
namespace Phrasebook.Languages

def Knows (languages : Languages) (language : Language) : Prop :=
  ∃ code : String, languages[code]? = some language

theorem mem_lineage? {languages : Languages} {limit : Nat} {language other : Language}
    {chain : List Language} (h : languages.lineage? limit language = some chain)
    (hother : other ∈ chain) :
    other = language ∨ languages.Knows other := by
  induction limit generalizing language chain with
  | zero => contradiction
  | succ limit ih =>
    rw [lineage?] at h
    split at h
    · cases h
      exact Or.inl (List.mem_singleton.1 hother)
    · next parent hparent =>
      obtain ⟨rest, hrest, rfl⟩ := Option.map_eq_some_iff.1 h
      obtain ⟨code, -, hcode⟩ := Option.bind_eq_some_iff.1 hparent
      rcases List.mem_cons.1 hother with rfl | hmem
      · exact Or.inl rfl
      · rcases ih hrest hmem with rfl | hknown
        · exact Or.inr ⟨code, hcode⟩
        · exact Or.inr hknown

theorem knows_of_mem_chain {languages : Languages} {code : String} {chain : List Language}
    {language : Language} (h : languages.chain code = .ok chain) (hmem : language ∈ chain) :
    languages.Knows language := by
  unfold Languages.chain at h
  split at h
  · contradiction
  · next start hstart =>
    split at h
    · next found hfound =>
      cases h
      rcases mem_lineage? hfound hmem with rfl | hknown
      · exact ⟨code, hstart⟩
      · exact hknown
    · contradiction

theorem exists_of_chain {languages : Languages} {code : String} {chain : List Language}
    (h : languages.chain code = .ok chain) : ∃ language, languages[code]? = some language := by
  unfold Languages.chain at h
  split at h
  · contradiction
  · next language hlanguage => exact ⟨language, hlanguage⟩

theorem exists_cons_of_chain {languages : Languages} {code : String} {chain : List Language}
    (h : languages.chain code = .ok chain) :
    ∃ language rest, languages[code]? = some language ∧ chain = language :: rest := by
  unfold Languages.chain at h
  split at h
  · contradiction
  · next language hlanguage =>
    split at h
    · next found hfound =>
      cases h
      obtain ⟨rest, rfl⟩ := List.head?_eq_some_iff.1 (head?_lineage? hfound)
      exact ⟨language, rest, hlanguage, rfl⟩
    · contradiction

theorem resolveDomain_eq_ok {languages : Languages} {code name : String} {domain : Domain}
    (h : languages.resolveDomain code name = .ok domain) :
    domain.name = name ∧ ∃ language, languages.Knows language ∧ domain ∈ language.domains := by
  unfold resolveDomain at h
  cases hchain : languages.chain code with
  | error => simp [hchain, bind, Except.bind] at h
  | ok chain =>
    simp only [hchain, bind, Except.bind] at h
    split at h
    · next found hfound =>
      cases h
      obtain ⟨language, hlanguage, hlocal⟩ := List.exists_of_findSome?_eq_some hfound
      have hname := List.find?_some hlocal
      exact ⟨beq_iff_eq.1 hname, language, knows_of_mem_chain hchain hlanguage,
        List.mem_of_find?_eq_some hlocal⟩
    · contradiction

def CategoriesBraceFree (languages : Languages) : Prop :=
  ∀ language, languages.Knows language →
    ∀ domain ∈ language.domains, ∀ category ∈ domain.categories, BraceFree category.name

theorem getElem?_foldl_add {added : List Language} {languages : Languages} {code : String}
    {language : Language} (h : (added.foldl add languages)[code]? = some language) :
    language ∈ added ∨ languages[code]? = some language := by
  induction added generalizing languages with
  | nil => exact Or.inr h
  | cons first added ih =>
    rcases ih h with hmem | hknown
    · exact Or.inl (List.mem_cons_of_mem _ hmem)
    · rw [add, Std.ExtTreeMap.getElem?_insert] at hknown
      split at hknown
      · cases hknown
        exact Or.inl (List.mem_cons_self ..)
      · exact Or.inr hknown

theorem categoriesBraceFree_ofLanguages {added : List Language}
    (h : ∀ language ∈ added, ∀ domain ∈ language.domains, ∀ category ∈ domain.categories,
      BraceFree category.name) : (ofLanguages added).CategoriesBraceFree := by
  rintro language ⟨code, hknown⟩
  rcases getElem?_foldl_add hknown with hmem | hempty
  · exact h language hmem
  · simp at hempty

theorem categoriesBraceFree_standard :
    (ofLanguages Standard.languages).CategoriesBraceFree :=
  categoriesBraceFree_ofLanguages (by decide)

end Phrasebook.Languages
