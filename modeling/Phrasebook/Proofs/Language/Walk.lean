import Mathlib.Logic.Relation
import Phrasebook.Proofs.Language.Chain

/-!
Walks along fallbacks. The walk from a code goes on from fallback to fallback, however long that
takes, and a chain has the languages of a walk that keeps to the limit (`Walk.exists_chain_eq`).
Where every known code has a walk, no language comes back to itself (`not_transGen_of_walk`).
-/
namespace Phrasebook.Languages

def FallsBack (languages : Languages) (code parent : String) : Prop :=
  ∃ language, languages[code]? = some language ∧ language.fallback = some parent

/-- The codes from a known one on, each the fallback of the one before it, up to a language without
a known fallback. -/
inductive Walk (languages : Languages) : String → List String → Prop
  | last {code : String} {language : Language} (known : languages[code]? = some language)
      (ends : languages.parent? language = none) : Walk languages code [code]
  | next {code parent : String} {codes : List String} (falls : languages.FallsBack code parent)
      (rest : Walk languages parent codes) : Walk languages code (code :: codes)

def Coded (languages : Languages) : Prop :=
  ∀ (code : String) (language : Language), languages[code]? = some language → language.code = code

def Names (languages : Languages) (codes : List String) (found : List Language) : Prop :=
  found.map some = codes.map (languages[·]?)

variable {languages languages' : Languages} {language : Language} {code parent : String}
  {codes codes' : List String}

theorem mem_of_getElem? (h : languages[code]? = some language) : code ∈ languages :=
  (Std.ExtTreeMap.getElem?_eq_some_iff.1 h).1

theorem FallsBack.mem (h : languages.FallsBack code parent) : code ∈ languages := by
  obtain ⟨language, hlanguage, -⟩ := h
  exact mem_of_getElem? hlanguage

theorem FallsBack.unique {parent' : String} (h : languages.FallsBack code parent)
    (h' : languages.FallsBack code parent') : parent' = parent := by
  obtain ⟨language, hlanguage, hparent⟩ := h
  obtain ⟨language', hlanguage', hparent'⟩ := h'
  obtain rfl := Option.some.inj (hlanguage.symm.trans hlanguage')
  exact Option.some.inj (hparent'.symm.trans hparent)

namespace Names

variable {found found' : List Language}

theorem cons (h : languages.Names codes found) (hlanguage : languages[code]? = some language) :
    languages.Names (code :: codes) (language :: found) := by
  rw [Names, List.map_cons, List.map_cons, h, hlanguage]

theorem unique (h : languages.Names codes found) (h' : languages.Names codes found') :
    found' = found :=
  List.map_injective_iff.2 (fun _ _ => Option.some.inj) (h'.trans h.symm)

theorem map_code (hcoded : languages.Coded) (h : languages.Names codes found) :
    found.map (·.code) = codes := by
  induction codes generalizing found with
  | nil => rw [List.map_eq_nil_iff.1 h, List.map_nil]
  | cons code codes ih =>
    obtain ⟨language, rest, rfl, hlanguage, hrest⟩ := List.map_eq_cons_iff.1 h
    rw [List.map_cons, hcoded code language hlanguage.symm, ih hrest]

end Names

namespace Walk

theorem mem (walk : languages.Walk code codes) : code ∈ languages := by
  cases walk with
  | last known ends => exact mem_of_getElem? known
  | next falls rest => exact falls.mem

theorem exists_cons (walk : languages.Walk code codes) : ∃ rest, codes = code :: rest := by
  cases walk <;> exact ⟨_, rfl⟩

theorem exists_rest (walk : languages.Walk code codes) (falls : languages.FallsBack code parent)
    (hparent : parent ∈ languages) : ∃ rest, codes = code :: rest ∧ languages.Walk parent rest := by
  cases walk with
  | last known ends =>
    obtain ⟨language, hlanguage, hfallback⟩ := falls
    obtain rfl := Option.some.inj (known.symm.trans hlanguage)
    rw [parent?, hfallback, Option.bind_some] at ends
    exact absurd hparent ((getElem?_eq_none_iff languages parent).1 ends)
  | next falls' rest =>
    obtain rfl := falls.unique falls'
    exact ⟨_, rfl, rest⟩

theorem unique (walk : languages.Walk code codes) (walk' : languages.Walk code codes') :
    codes' = codes := by
  induction walk generalizing codes' with
  | last known ends =>
    cases walk' with
    | last _ _ => rfl
    | next falls rest =>
      obtain ⟨rest', heq, hrest'⟩ := (Walk.last known ends).exists_rest falls rest.mem
      obtain ⟨further, rfl⟩ := hrest'.exists_cons
      simp at heq
  | next falls rest ih =>
    obtain ⟨rest', rfl, hrest'⟩ := walk'.exists_rest falls rest.mem
    rw [ih hrest']

theorem length_lt_of_transGen {ancestor : String}
    (h : Relation.TransGen languages.FallsBack code ancestor) (walk : languages.Walk code codes)
    (walk' : languages.Walk ancestor codes') : codes'.length < codes.length := by
  induction h generalizing codes' with
  | single falls =>
    obtain ⟨rest, rfl, hrest⟩ := walk.exists_rest falls walk'.mem
    rw [hrest.unique walk', List.length_cons]
    exact Nat.lt_succ_self _
  | tail _ falls ih => exact Nat.lt_of_succ_lt (ih (.next falls walk'))

/-- The walk of the languages themselves, which is what the limit is compared with. -/
theorem exists_lineage (walk : languages.Walk code codes) :
    ∃ language found, languages[code]? = some language ∧ languages.Names codes found ∧
      ∀ limit, languages.lineage? limit language =
        if codes.length ≤ limit then some found else none := by
  induction walk with
  | @last code language known ends =>
    refine ⟨language, [language], known, by simp [Names, known], fun limit => ?_⟩
    cases limit <;> simp [lineage?, ends]
  | @next code _ codes falls rest ih =>
    obtain ⟨language, hlanguage, hfallback⟩ := falls
    obtain ⟨parent, found, hparent, hnames, hlineage⟩ := ih
    have hfound : languages.parent? language = some parent := by
      rw [parent?, hfallback, Option.bind_some, hparent]
    refine ⟨language, language :: found, hlanguage, hnames.cons hlanguage, fun limit => ?_⟩
    cases limit with
    | zero => simp [lineage?]
    | succ limit =>
      rw [lineage?, hfound]
      simp only [hlineage, List.length_cons, Nat.add_le_add_iff_right]
      split <;> rfl

theorem exists_chain_eq (walk : languages.Walk code codes) :
    ∃ found, languages.Names codes found ∧ languages.chain code =
      if codes.length ≤ chainLimit then .ok found else .error (.chainTooLong code chainLimit) := by
  obtain ⟨language, found, hlanguage, hnames, hlineage⟩ := walk.exists_lineage
  refine ⟨found, hnames, ?_⟩
  unfold Languages.chain
  simp only [hlanguage, hlineage]
  by_cases hlength : codes.length ≤ chainLimit
  · simp only [if_pos hlength]
  · simp only [if_neg hlength]

theorem chain_eq (hcoded : languages.Coded) (walk : languages.Walk code codes) :
    (languages.chain code).map (List.map (·.code)) =
      if codes.length ≤ chainLimit then .ok codes else .error (.chainTooLong code chainLimit) := by
  obtain ⟨found, hnames, hchain⟩ := walk.exists_chain_eq
  rw [hchain]
  split
  · exact congrArg Except.ok (hnames.map_code hcoded)
  · rfl

end Walk

theorem exists_walk_of_lineage? {limit : Nat} {found : List Language}
    (hknown : languages[code]? = some language)
    (h : languages.lineage? limit language = some found) :
    ∃ codes, languages.Walk code codes ∧ languages.Names codes found := by
  induction limit generalizing code language found with
  | zero => contradiction
  | succ limit ih =>
    rw [lineage?] at h
    split at h
    · next hends =>
      cases h
      exact ⟨[code], .last hknown hends, by simp [Names, hknown]⟩
    · next parent hparent =>
      obtain ⟨rest, hrest, rfl⟩ := Option.map_eq_some_iff.1 h
      obtain ⟨fallback, hfallback, hfound⟩ := Option.bind_eq_some_iff.1 hparent
      obtain ⟨codes, walk, hnames⟩ := ih hfound hrest
      exact ⟨code :: codes, .next ⟨language, hknown, hfallback⟩ walk, hnames.cons hknown⟩

theorem exists_walk_of_chain {found : List Language} (h : languages.chain code = .ok found) :
    ∃ codes, languages.Walk code codes ∧ languages.Names codes found := by
  obtain ⟨language, hlanguage, hlineage⟩ := chain_eq_ok.1 h
  exact exists_walk_of_lineage? hlanguage hlineage

theorem walk_of_chain (hcoded : languages.Coded) {chain : List Language}
    (h : languages.chain code = .ok chain) : languages.Walk code (chain.map (·.code)) := by
  obtain ⟨codes, walk, hnames⟩ := exists_walk_of_chain h
  rw [hnames.map_code hcoded]
  exact walk

theorem not_transGen_of_walk (h : ∀ code ∈ languages, ∃ codes, languages.Walk code codes)
    (code : String) : ¬ Relation.TransGen languages.FallsBack code code := by
  intro hcycle
  obtain ⟨parent, falls, -⟩ := Relation.TransGen.head'_iff.1 hcycle
  obtain ⟨codes, walk⟩ := h code falls.mem
  exact Nat.lt_irrefl _ (walk.length_lt_of_transGen hcycle walk)

end Phrasebook.Languages
