import Phrasebook.Proofs.First
import Phrasebook.Proofs.Language.Built
import Phrasebook.Proofs.Language.Limit

/-!
The nearest language of a chain that has what is looked for. If one language is given something,
the look-ups that come to it before any other language that has such a thing find what was given,
and all others find what they found before (`findSome?_of_unshadowed`,
`findSome?_of_not_unshadowed`). A domain is found where the walk comes to a language that defines
one (`resolveDomain_eq_ok_iff_finds`), and otherwise it is told what is lacking
(`resolveDomain_eq_error_iff_lacks`).
-/
namespace Phrasebook

namespace Language

def Defines (language : Language) (name : String) : Prop :=
  ∃ domain ∈ language.domains, domain.name = name

instance (language : Language) (name : String) : Decidable (language.Defines name) :=
  inferInstanceAs (Decidable (∃ domain ∈ language.domains, domain.name = name))

variable {language : Language} {name : String}

theorem localDomain?_eq_none : language.localDomain? name = none ↔ ¬ language.Defines name := by
  simp [localDomain?, Defines]

theorem Built.localDomain?_eq_some (built : Built language) {domain : Domain} :
    language.localDomain? name = some domain ↔ domain ∈ language.domains ∧ domain.name = name := by
  constructor
  · intro h
    have hname := List.find?_some h
    exact ⟨List.mem_of_find?_eq_some h, beq_iff_eq.1 hname⟩
  · rintro ⟨hmem, rfl⟩
    cases hfound : language.localDomain? domain.name with
    | none => exact absurd ⟨domain, hmem, rfl⟩ (localDomain?_eq_none.1 hfound)
    | some other =>
      have hname := List.find?_some hfound
      rw [List.inj_on_of_nodup_map built.nodup_names (List.mem_of_find?_eq_some hfound) hmem
        (beq_iff_eq.1 hname)]

end Language

namespace Languages

/-- The target stands in the chain, and none of the languages before it has what is looked for. -/
def Unshadowed (has : Language → Prop) (target : String) (chain : List Language) : Prop :=
  First (fun language => ¬ has language) (fun language => language.code = target) chain

section

variable {has : Language → Prop} {target : String}

theorem unshadowed_nil : ¬ Unshadowed has target [] :=
  First.not_nil

theorem unshadowed_cons {language : Language} {chain : List Language} :
    Unshadowed has target (language :: chain) ↔
      language.code = target ∨ ¬ has language ∧ Unshadowed has target chain :=
  First.cons_iff

instance [DecidablePred has] (chain : List Language) : Decidable (Unshadowed has target chain) :=
  First.decidable chain

end

section

variable {α : Type} {find? find'? : Language → Option α} {has : Language → Prop} {target : String}
  {given : α} {chain : List Language}

theorem findSome?_of_unshadowed (hhas : ∀ language, find? language = none ↔ ¬ has language)
    (htarget : ∀ language, language.code = target → find'? language = some given)
    (hother : ∀ language, language.code ≠ target → find'? language = find? language)
    (h : Unshadowed has target chain) : chain.findSome? find'? = some given := by
  induction chain with
  | nil => exact absurd h unshadowed_nil
  | cons language chain ih =>
    rw [List.findSome?_cons]
    by_cases hcode : language.code = target
    · rw [htarget language hcode]
    · obtain ⟨hnot, hfurther⟩ := (unshadowed_cons.1 h).resolve_left hcode
      rw [hother language hcode, (hhas language).2 hnot]
      exact ih hfurther

theorem findSome?_of_not_unshadowed (hhas : ∀ language, find? language = none ↔ ¬ has language)
    (hother : ∀ language, language.code ≠ target → find'? language = find? language)
    (h : ¬ Unshadowed has target chain) : chain.findSome? find'? = chain.findSome? find? := by
  induction chain with
  | nil => rfl
  | cons language chain ih =>
    rw [unshadowed_cons, not_or] at h
    rw [List.findSome?_cons, List.findSome?_cons, hother language h.1]
    cases hfound : find? language with
    | some found => rfl
    | none => exact ih fun hfurther => h.2 ⟨(hhas language).1 hfound, hfurther⟩

end

def searched (code name : String) : Option Domain → Except Error Domain
  | some domain => .ok domain
  | none => .error (.unsupportedDomain name code)

variable {languages : Languages} {code name : String}

theorem resolveDomain_of_chain {chain : List Language} (h : languages.chain code = .ok chain)
    (name : String) :
    languages.resolveDomain code name =
      searched code name (chain.findSome? (·.localDomain? name)) := by
  rw [resolveDomain, h]
  rfl

theorem resolveDomain_of_chain_eq_error {error : Error} (h : languages.chain code = .error error)
    (name : String) : languages.resolveDomain code name = .error error := by
  rw [resolveDomain, h]
  rfl

/-- The nearest language of the chain that defines the name has this domain for it. -/
def Finds (languages : Languages) (code name : String) (domain : Domain) : Prop :=
  ∃ nearer language further, languages.chain code = .ok (nearer ++ language :: further) ∧
    (∀ other ∈ nearer, ¬ other.Defines name) ∧ language.localDomain? name = some domain

theorem resolveDomain_eq_ok_iff_finds {domain : Domain} :
    languages.resolveDomain code name = .ok domain ↔ languages.Finds code name domain := by
  unfold Finds
  cases hchain : languages.chain code with
  | error error => simp [resolveDomain_of_chain_eq_error hchain]
  | ok chain =>
    have hfound : languages.resolveDomain code name = .ok domain ↔
        chain.findSome? (·.localDomain? name) = some domain := by
      rw [resolveDomain_of_chain hchain]
      cases chain.findSome? (·.localDomain? name) <;> simp [searched]
    rw [hfound, List.findSome?_eq_some_iff]
    simp only [Except.ok.injEq, ← Language.localDomain?_eq_none]
    constructor
    · rintro ⟨nearer, language, further, heq, hlocal, hnearer⟩
      exact ⟨nearer, language, further, heq, hnearer, hlocal⟩
    · rintro ⟨nearer, language, further, heq, hnearer, hlocal⟩
      exact ⟨nearer, language, further, heq, hlocal, hnearer⟩

theorem resolveDomain_eq_ok_iff (hbuilt : ∀ language, languages.Knows language → language.Built)
    {domain : Domain} :
    languages.resolveDomain code name = .ok domain ↔
      ∃ nearer language further, languages.chain code = .ok (nearer ++ language :: further) ∧
        (∀ other ∈ nearer, ¬ other.Defines name) ∧ domain ∈ language.domains ∧
        domain.name = name := by
  rw [resolveDomain_eq_ok_iff_finds]
  refine exists₃_congr fun nearer language further => and_congr_right fun hchain =>
    and_congr_right fun _ => ?_
  have hmem : language ∈ nearer ++ language :: further := by simp
  exact (hbuilt language (knows_of_mem_chain hchain hmem)).localDomain?_eq_some

theorem resolveDomain_eq_error_iff {error : Error} :
    languages.resolveDomain code name = .error error ↔
      languages.chain code = .error error ∨
        ∃ chain, languages.chain code = .ok chain ∧
          (∀ language ∈ chain, ¬ language.Defines name) ∧ error = .unsupportedDomain name code := by
  cases hchain : languages.chain code with
  | error found => simp [resolveDomain_of_chain_eq_error hchain]
  | ok chain =>
    rw [resolveDomain_of_chain hchain]
    cases hfound : chain.findSome? (·.localDomain? name) with
    | none =>
      rw [List.findSome?_eq_none_iff] at hfound
      have hnone : ∀ language ∈ chain, ¬ language.Defines name := fun language hmem =>
        Language.localDomain?_eq_none.1 (hfound language hmem)
      simp only [searched, Except.error.injEq, reduceCtorEq, Except.ok.injEq, exists_eq_left',
        false_or, eq_comm (a := error)]
      exact (and_iff_right hnone).symm
    | some domain =>
      obtain ⟨language, hmem, hlocal⟩ := List.exists_of_findSome?_eq_some hfound
      have hdefines : language.Defines name := by
        rw [← Decidable.not_not (p := language.Defines name), ← Language.localDomain?_eq_none, hlocal]
        simp
      simp only [searched, Except.ok.injEq, exists_eq_left', reduceCtorEq, false_or, false_iff]
      exact fun hboth => hboth.1 language hmem hdefines

/-- Why a search for a domain of this name finds none, and how it is told. -/
inductive Lacks (languages : Languages) (code name : String) : Error → Prop
  | unknownLanguage (h : code ∉ languages) : Lacks languages code name (.unknownLanguage code)
  | chainTooLong (h : (∃ codes, languages.Walk code codes ∧ chainLimit < codes.length) ∨
      languages.NeverEnds code) : Lacks languages code name (.chainTooLong code chainLimit)
  | unsupported {chain : List Language} (hchain : languages.chain code = .ok chain)
      (hnone : ∀ language ∈ chain, ¬ language.Defines name) :
      Lacks languages code name (.unsupportedDomain name code)

theorem resolveDomain_eq_error_iff_lacks {error : Error} :
    languages.resolveDomain code name = .error error ↔ languages.Lacks code name error := by
  rw [resolveDomain_eq_error_iff]
  constructor
  · rintro (hchain | ⟨chain, hchain, hnone, rfl⟩)
    · rcases error_of_chain hchain with rfl | rfl
      · exact .unknownLanguage (chain_eq_unknown_iff.1 hchain)
      · exact .chainTooLong (chain_eq_tooLong_iff.1 hchain)
    · exact .unsupported hchain hnone
  · intro h
    cases h with
    | unknownLanguage hcode => exact .inl (chain_eq_unknown_iff.2 hcode)
    | chainTooLong hwalk => exact .inl (chain_eq_tooLong_iff.2 hwalk)
    | unsupported hchain hnone => exact .inr ⟨_, hchain, hnone, rfl⟩

end Languages

end Phrasebook
