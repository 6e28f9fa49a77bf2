import Mathlib.Data.List.Nodup
import Mathlib.Order.WellFounded
import Phrasebook.Proofs.Language.Walk

/-!
Which chains there are. The walk from a known code comes to an end or never ends
(`neverEnds_iff`), and it meets no code twice if it ends (`Walk.nodup`). The chain has the languages
of the walk if these are at most 32; a walk that is longer, or never ends, is refused
(`chain_decides_walk`).
-/
namespace Phrasebook.Languages

def NeverEnds (languages : Languages) (code : String) : Prop :=
  ∃ path : Nat → String, path 0 = code ∧ ∀ n, languages.FallsBack (path n) (path (n + 1))

variable {languages : Languages} {code : String} {codes : List String}

namespace Walk

theorem of_append {nearer further : List String} {met : String}
    (walk : languages.Walk code (nearer ++ met :: further)) :
    languages.Walk met (met :: further) := by
  induction nearer generalizing code with
  | nil =>
    obtain ⟨rest, heq⟩ := walk.exists_cons
    cases heq
    exact walk
  | cons other nearer ih =>
    obtain ⟨first, rest, hrest⟩ : ∃ first rest, nearer ++ met :: further = first :: rest :=
      List.exists_cons_of_ne_nil (by simp)
    rw [List.cons_append, hrest] at walk
    cases walk with
    | next falls walk =>
      rw [← hrest] at walk
      exact ih walk

theorem exists_suffix_of_mem (walk : languages.Walk code codes) {met : String}
    (hmet : met ∈ codes) :
    ∃ rest, languages.Walk met rest ∧ rest <:+ codes := by
  obtain ⟨nearer, further, rfl⟩ := List.append_of_mem hmet
  exact ⟨met :: further, walk.of_append, List.suffix_append _ _⟩

theorem nodup (walk : languages.Walk code codes) : codes.Nodup := by
  induction walk with
  | last known ends => exact List.nodup_singleton _
  | @next code parent codes falls rest ih =>
    refine List.nodup_cons.2 ⟨fun hmem => ?_, ih⟩
    -- From the same code the same walk would start again, inside its own rest.
    obtain ⟨further, walk, hsuffix⟩ := rest.exists_suffix_of_mem hmem
    rw [(Walk.next falls rest).unique walk] at hsuffix
    exact Nat.lt_irrefl _ hsuffix.length_le

theorem exists_of_reflTransGen (walk : languages.Walk code codes) {ancestor : String}
    (h : Relation.ReflTransGen languages.FallsBack code ancestor) (hmem : ancestor ∈ languages) :
    ∃ codes', languages.Walk ancestor codes' := by
  induction h with
  | refl => exact ⟨codes, walk⟩
  | tail _ falls ih =>
    obtain ⟨codes', walk'⟩ := ih falls.mem
    obtain ⟨rest, -, hrest⟩ := walk'.exists_rest falls hmem
    exact ⟨rest, hrest⟩

theorem acc (walk : languages.Walk code codes) : Acc (flip languages.FallsBack) code := by
  induction walk with
  | @last code language known ends =>
    refine Acc.intro _ fun parent falls => Acc.intro _ fun grandparent falls' => ?_
    obtain ⟨rest, hcodes, hrest⟩ := (Walk.last known ends).exists_rest falls falls'.mem
    obtain ⟨further, rfl⟩ := hrest.exists_cons
    simp at hcodes
  | next falls rest ih =>
    refine Acc.intro _ fun parent falls' => ?_
    rw [falls.unique falls']
    exact ih

end Walk

theorem exists_walk_of_acc (h : Acc (flip languages.FallsBack) code) (hmem : code ∈ languages) :
    ∃ codes, languages.Walk code codes := by
  induction h with
  | intro code _ ih =>
    have hknown := Std.ExtTreeMap.getElem?_eq_some_getElem hmem
    cases hparent : languages.parent? languages[code] with
    | none => exact ⟨[code], .last hknown hparent⟩
    | some parent =>
      obtain ⟨fallback, hfallback, hfound⟩ := Option.bind_eq_some_iff.1 hparent
      have falls : languages.FallsBack code fallback := ⟨_, hknown, hfallback⟩
      obtain ⟨codes, walk⟩ := ih fallback falls (mem_of_getElem? hfound)
      exact ⟨code :: codes, .next falls walk⟩

theorem neverEnds_iff (hmem : code ∈ languages) :
    languages.NeverEnds code ↔ ¬ ∃ codes, languages.Walk code codes := by
  have hpath : languages.NeverEnds code ↔ ¬ Acc (flip languages.FallsBack) code :=
    (not_acc_iff_exists_descending_chain (r := flip languages.FallsBack)).symm
  rw [hpath, not_iff_not]
  exact ⟨fun h => exists_walk_of_acc h hmem, fun ⟨_, walk⟩ => walk.acc⟩

theorem NeverEnds.mem (h : languages.NeverEnds code) : code ∈ languages := by
  obtain ⟨path, rfl, hfalls⟩ := h
  exact (hfalls 0).mem

theorem neverEnds_of_cycle {ancestor : String}
    (hreach : Relation.ReflTransGen languages.FallsBack code ancestor)
    (hcycle : Relation.TransGen languages.FallsBack ancestor ancestor) :
    languages.NeverEnds code := by
  obtain ⟨parent, falls, -⟩ := Relation.TransGen.head'_iff.1 hcycle
  have hmem : code ∈ languages := by
    rcases Relation.ReflTransGen.cases_head hreach with rfl | ⟨next, falls', -⟩
    · exact falls.mem
    · exact falls'.mem
  rw [neverEnds_iff hmem]
  rintro ⟨codes, walk⟩
  obtain ⟨codes', walk'⟩ := walk.exists_of_reflTransGen hreach falls.mem
  exact Nat.lt_irrefl _ (walk'.length_lt_of_transGen hcycle walk')

theorem chain_eq_unknown_iff :
    languages.chain code = .error (.unknownLanguage code) ↔ code ∉ languages := by
  refine ⟨fun h hmem => ?_, chain_of_not_mem⟩
  unfold chain at h
  rw [Std.ExtTreeMap.getElem?_eq_some_getElem hmem] at h
  cases hlineage : languages.lineage? chainLimit languages[code] <;> simp [hlineage] at h

theorem chain_of_neverEnds (h : languages.NeverEnds code) :
    languages.chain code = .error (.chainTooLong code chainLimit) := by
  have hendless := (neverEnds_iff h.mem).1 h
  obtain ⟨language, hknown⟩ : ∃ language, languages[code]? = some language :=
    ⟨_, Std.ExtTreeMap.getElem?_eq_some_getElem h.mem⟩
  have hlineage : languages.lineage? chainLimit language = none := by
    rw [Option.eq_none_iff_forall_ne_some]
    intro found hfound
    obtain ⟨codes, walk, -⟩ := exists_walk_of_lineage? hknown hfound
    exact hendless ⟨codes, walk⟩
  unfold chain
  simp only [hknown, hlineage]

theorem chain_eq_ok_iff {found : List Language} : languages.chain code = .ok found ↔
    ∃ codes, languages.Walk code codes ∧ codes.length ≤ chainLimit ∧
      languages.Names codes found := by
  constructor
  · intro h
    obtain ⟨codes, walk, hnames⟩ := exists_walk_of_chain h
    refine ⟨codes, walk, ?_, hnames⟩
    obtain ⟨found', -, hchain⟩ := walk.exists_chain_eq
    rw [h] at hchain
    by_contra hlength
    simp [hlength] at hchain
  · rintro ⟨codes, walk, hlength, hnames⟩
    obtain ⟨found', hnames', hchain⟩ := walk.exists_chain_eq
    rw [hchain, if_pos hlength, hnames.unique hnames']

theorem chain_eq_tooLong_iff : languages.chain code = .error (.chainTooLong code chainLimit) ↔
    (∃ codes, languages.Walk code codes ∧ chainLimit < codes.length) ∨
      languages.NeverEnds code := by
  constructor
  · intro h
    by_cases hmem : code ∈ languages
    · rw [neverEnds_iff hmem, or_iff_not_imp_right, not_not]
      rintro ⟨codes, walk⟩
      obtain ⟨found, -, hchain⟩ := walk.exists_chain_eq
      rw [h] at hchain
      refine ⟨codes, walk, Nat.lt_of_not_le fun hlength => ?_⟩
      simp [hlength] at hchain
    · rw [chain_eq_unknown_iff.2 hmem] at h
      simp at h
  · rintro (⟨codes, walk, hlength⟩ | hendless)
    · obtain ⟨found, -, hchain⟩ := walk.exists_chain_eq
      rw [hchain, if_neg (Nat.not_le_of_lt hlength)]
    · exact chain_of_neverEnds hendless

/-- The chain of an unknown code is refused. The walk from a known code ends, in one way only, or
never ends. If it ends with at most 32 languages, these are the chain, each under a code of its own;
otherwise the chain is refused, as it is for a code that comes to a cycle. -/
theorem chain_decides_walk (languages : Languages) (code : String) :
    (languages.chain code = .error (.unknownLanguage code) ↔ code ∉ languages) ∧
    (∀ found, languages.chain code = .ok found ↔
      ∃ codes, languages.Walk code codes ∧ codes.length ≤ 32 ∧ languages.Names codes found) ∧
    (languages.chain code = .error (.chainTooLong code 32) ↔
      (∃ codes, languages.Walk code codes ∧ 32 < codes.length) ∨ languages.NeverEnds code) ∧
    (code ∈ languages ↔ (∃ codes, languages.Walk code codes) ∨ languages.NeverEnds code) ∧
    (∀ codes, languages.Walk code codes → codes.head? = some code ∧ codes.Nodup ∧
      ∀ codes', languages.Walk code codes' → codes' = codes) ∧
    (languages.Coded → ∀ codes found, languages.Names codes found → found.map (·.code) = codes) ∧
    ∀ ancestor, Relation.ReflTransGen languages.FallsBack code ancestor →
      Relation.TransGen languages.FallsBack ancestor ancestor →
        languages.chain code = .error (.chainTooLong code 32) := by
  refine ⟨chain_eq_unknown_iff, fun found => chain_eq_ok_iff, chain_eq_tooLong_iff, ?_, ?_, ?_, ?_⟩
  · constructor
    · intro hmem
      rw [neverEnds_iff hmem]
      exact Classical.em _
    · rintro (⟨codes, walk⟩ | hendless)
      · exact walk.mem
      · exact hendless.mem
  · intro codes walk
    obtain ⟨rest, rfl⟩ := walk.exists_cons
    exact ⟨rfl, walk.nodup, fun codes' => walk.unique⟩
  · intro hcoded codes found hnames
    exact hnames.map_code hcoded
  · intro ancestor hreach hcycle
    exact chain_of_neverEnds (neverEnds_of_cycle hreach hcycle)

def entangled : Languages :=
  ofLanguages [{ code := "a", fallback := some "b" }, { code := "b", fallback := some "a" },
    { code := "c", fallback := some "a" }]

theorem chain_decides_walk_entangled :
    Relation.ReflTransGen entangled.FallsBack "c" "a" ∧
      Relation.TransGen entangled.FallsBack "a" "a" ∧
      entangled.chain "c" = .error (.chainTooLong "c" 32) := by
  have hfirst : entangled.FallsBack "a" "b" := ⟨_, rfl, rfl⟩
  have hsecond : entangled.FallsBack "b" "a" := ⟨_, rfl, rfl⟩
  have hthird : entangled.FallsBack "c" "a" := ⟨_, rfl, rfl⟩
  have hreach := Relation.ReflTransGen.single hthird
  have hcycle := (Relation.TransGen.single hfirst).tail hsecond
  have hchain := (chain_decides_walk entangled "c").2.2.2.2.2.2
  exact ⟨hreach, hcycle, hchain "a" hreach hcycle⟩

/-- So many languages, each of which falls back to the next one; that of the last is not known. -/
def tower (n : Nat) : Languages :=
  ofLanguages ((List.range n).map fun i =>
    { code := i.repr, fallback := some (i + 1).repr })

example : ((tower 32).chain "0").toOption.map List.length = some 32 ∧
    ((tower 33).chain "0").toOption.map List.length = none := by
  decide +kernel

end Phrasebook.Languages
