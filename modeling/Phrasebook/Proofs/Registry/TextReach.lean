import Phrasebook.Proofs.Catalog.Merge
import Phrasebook.Proofs.Language.Nearest
import Phrasebook.Proofs.Registry.Outcome
import Phrasebook.Proofs.Registry.Representation

/-!
How far a text reaches. The texts that a catalog is given are found at once from every language
whose chain comes to its language before another one with a text for the key; all other look-ups
stay as they are (`TextsAdded`). What several updates come to does not depend on how they are cut
up, nor, as far as they are about different texts, on their order.
-/
namespace Phrasebook.Registry

def HasText (registry : Registry) (key : String) (language : Language) : Prop :=
  (registry.localText? language.code key).isSome

instance (registry : Registry) (key : String) : DecidablePred (registry.HasText key) :=
  fun language => inferInstanceAs (Decidable ((registry.localText? language.code key).isSome))

variable {registry registry' : Registry} {target : String} {pairs : List (String × String)}

theorem localText?_eq_none {key : String} {language : Language} :
    registry.localText? language.code key = none ↔ ¬ registry.HasText key language := by
  simp [HasText]

theorem localText?_of_updateTranslations
    (h : registry.updateTranslations target pairs = .ok registry') (code key : String) :
    registry'.localText? code key =
      if target = code then (Catalog.lastText? pairs key).or (registry.localText? code key)
      else registry.localText? code key := by
  unfold localText?
  rw [catalog?_of_updateTranslations h]
  split
  · cases hcatalog : registry.catalog? code <;>
      simp [Catalog.getElem?_merge]
  · rfl

theorem nearest?_of_unshadowed (h : registry.updateTranslations target pairs = .ok registry')
    {key text : String} (htext : Catalog.lastText? pairs key = some text) {chain : List Language}
    (hunshadowed : Languages.Unshadowed (registry.HasText key) target chain) :
    registry'.nearest? key chain = some text := by
  refine Languages.findSome?_of_unshadowed (fun _ => localText?_eq_none) ?_ ?_ hunshadowed
  · intro language hcode
    rw [localText?_of_updateTranslations h, if_pos hcode.symm, htext, Option.some_or]
  · intro language hcode
    rw [localText?_of_updateTranslations h, if_neg (Ne.symm hcode)]

theorem nearest?_of_not_unshadowed (h : registry.updateTranslations target pairs = .ok registry')
    {key : String} {chain : List Language}
    (hshadowed : key ∈ pairs.map Prod.fst →
      ¬ Languages.Unshadowed (registry.HasText key) target chain) :
    registry'.nearest? key chain = registry.nearest? key chain := by
  by_cases hkey : key ∈ pairs.map Prod.fst
  · refine Languages.findSome?_of_not_unshadowed (fun _ => localText?_eq_none) ?_ (hshadowed hkey)
    intro language hcode
    rw [localText?_of_updateTranslations h, if_neg (Ne.symm hcode)]
  · have htext (code : String) :
        registry'.localText? code key = registry.localText? code key := by
      rw [localText?_of_updateTranslations h, Catalog.lastText?_eq_none.2 hkey, Option.none_or,
        ite_self]
    simp only [nearest?, htext]

structure TextsAdded (registry registry' : Registry) (target : String)
    (pairs : List (String × String)) : Prop where
  found : ∀ front key text back, pairs = front ++ (key, text) :: back →
    key ∉ back.map Prod.fst → ∀ code chain, registry.languages.chain code = .ok chain →
      Languages.Unshadowed (registry.HasText key) target chain →
      registry'.translation? code key = some text
  unchanged : ∀ code key,
    (key ∈ pairs.map Prod.fst → ∀ chain, registry.languages.chain code = .ok chain →
      ¬ Languages.Unshadowed (registry.HasText key) target chain) →
    registry'.translation? code key = registry.translation? code key
  keys : ∀ code catalog, registry.catalog? code = some catalog →
    ∃ catalog', registry'.catalog? code = some catalog' ∧ ∀ key ∈ catalog, key ∈ catalog'
  others : ∀ code, code ≠ target → registry'.catalog? code = registry.catalog? code
  languages : registry'.languages = registry.languages
  mode : registry'.mode = registry.mode
  metrics : registry'.metrics = registry.metrics

theorem textsAdded_of_updateTranslations
    (h : registry.updateTranslations target pairs = .ok registry') :
    TextsAdded registry registry' target pairs where
  found front key text back heq hback code chain hchain hunshadowed := by
    have htext : Catalog.lastText? pairs key = some text := by
      rw [heq]
      exact Catalog.lastText?_of_last front text hback
    have hchain' : registry'.languages.chain code = .ok chain := by
      rw [languages_of_updateTranslations h, hchain]
    rw [translation?_of_chain hchain', nearest?_of_unshadowed h htext hunshadowed]
  unchanged code key hshadowed :=
    translation?_congr (by rw [languages_of_updateTranslations h]) fun chain hchain =>
      nearest?_of_not_unshadowed h fun hkey => hshadowed hkey chain hchain
  keys := (preserves_updateTranslations h).keeps.key
  others code hne := by
    rw [catalog?_of_updateTranslations h, if_neg hne.symm]
  languages := languages_of_updateTranslations h
  mode := mode_of_updateTranslations h
  metrics := metrics_of_updateTranslations h

section

variable (registry : Registry) (target : String) (pairs pairs' : List (String × String))

theorem putTexts_putTexts :
    (registry.putTexts target pairs).putTexts target pairs' =
      registry.putTexts target (pairs ++ pairs') := by
  rw [putTexts.eq_def (registry.putTexts target pairs), catalog?_putTexts, if_pos rfl,
    Option.getD_some]
  unfold putTexts Catalog.merge
  refine congrArg (fun catalogs => { registry with catalogs }) ?_
  apply Std.ExtTreeMap.ext_getElem?
  intro code
  by_cases hcode : target = code <;>
    simp [Std.ExtTreeMap.getElem?_insert, Std.ExtTreeMap.insertMany_append, hcode]

variable {target pairs pairs'}

theorem putTexts_comm {target' : String}
    (h : target ≠ target' ∨ ∀ key ∈ pairs.map Prod.fst, key ∉ pairs'.map Prod.fst) :
    (registry.putTexts target pairs).putTexts target' pairs' =
      (registry.putTexts target' pairs').putTexts target pairs := by
  have hcatalog (code : String) :
      ((registry.putTexts target pairs).putTexts target' pairs').catalog? code =
        ((registry.putTexts target' pairs').putTexts target pairs).catalog? code := by
    simp only [catalog?_putTexts]
    by_cases hfirst : target = code
    · by_cases hsecond : target' = code
      · have hdisjoint := h.resolve_left fun hne => hne (hfirst.trans hsecond.symm)
        rw [if_pos hfirst, if_pos hsecond, if_pos hfirst, if_pos hsecond, Option.getD_some,
          Option.getD_some, Catalog.merge_merge_comm _ hdisjoint]
      · rw [if_neg hsecond, if_neg hsecond]
    · rw [if_neg hfirst, if_neg hfirst]
  exact congrArg (fun catalogs => { registry with catalogs })
    (Std.ExtTreeMap.ext_getElem? hcatalog)

end

theorem updateTranslations_append (registry : Registry) (target : String)
    (pairs pairs' : List (String × String)) :
    registry.updateTranslations target pairs >>= (·.updateTranslations target pairs') =
      registry.updateTranslations target (pairs ++ pairs') := by
  by_cases hmem : target ∈ registry.languages
  · have hmem' : target ∈ (registry.putTexts target pairs).languages := hmem
    rw [updateTranslations_of_mem hmem, updateTranslations_of_mem hmem, ← putTexts_putTexts]
    exact updateTranslations_of_mem hmem' pairs'
  · rw [updateTranslations_of_not_mem hmem, updateTranslations_of_not_mem hmem]
    rfl

theorem apply_updateTranslations (registry : Registry) (target : String)
    (pairs : List (String × String)) :
    registry.apply (.updateTranslations target pairs) =
      if target ∈ registry.languages then registry.putTexts target pairs else registry := by
  rw [apply]
  split
  · next hmem => rw [updateTranslations_of_mem hmem, updated]
  · next hmem => rw [updateTranslations_of_not_mem hmem, updated]

theorem apply_updateTranslations_comm (registry : Registry) {target' : String}
    {pairs' : List (String × String)}
    (h : target ≠ target' ∨ ∀ key ∈ pairs.map Prod.fst, key ∉ pairs'.map Prod.fst) :
    (registry.apply (.updateTranslations target pairs)).apply
        (.updateTranslations target' pairs') =
      (registry.apply (.updateTranslations target' pairs')).apply
        (.updateTranslations target pairs) := by
  simp only [apply_updateTranslations]
  by_cases hmem : target ∈ registry.languages <;>
    by_cases hmem' : target' ∈ registry.languages <;>
      simp [hmem, hmem', putTexts_comm registry h]

/-- A key is looked up in the nearest catalog that has it, and an added text is found exactly where
this is the catalog that got it, whatever other updates come before or after. -/
theorem reach_of_updateTranslations (registry : Registry) (target : String)
    (pairs : List (String × String)) :
    (∀ code key text, registry.translation? code key = some text ↔
      ∃ nearer language further,
        registry.languages.chain code = .ok (nearer ++ language :: further) ∧
        (∀ other ∈ nearer, registry.localText? other.code key = none) ∧
        registry.localText? language.code key = some text) ∧
      (∀ code key, registry.translation? code key = none ↔
        ∀ chain, registry.languages.chain code = .ok chain →
          ∀ language ∈ chain, registry.localText? language.code key = none) ∧
      (target ∈ registry.languages → ∃ registry',
        registry.updateTranslations target pairs = .ok registry' ∧
          TextsAdded registry registry' target pairs) ∧
      (target ∉ registry.languages →
        registry.updateTranslations target pairs = .error (.unknownLanguage target) ∧
          registry.updated (registry.updateTranslations target pairs) = registry) ∧
      (∀ target' pairs',
        target ≠ target' ∨ (∀ key ∈ pairs.map Prod.fst, key ∉ pairs'.map Prod.fst) →
        (registry.apply (.updateTranslations target pairs)).apply
            (.updateTranslations target' pairs') =
          (registry.apply (.updateTranslations target' pairs')).apply
            (.updateTranslations target pairs)) ∧
      ∀ pairs', registry.updateTranslations target pairs >>=
          (·.updateTranslations target pairs') =
        registry.updateTranslations target (pairs ++ pairs') := by
  refine ⟨?_, ?_, ?_, ?_, ?_, ?_⟩
  · intro code key text
    exact translation?_eq_some_iff
  · intro code key
    exact translation?_eq_none_iff
  · intro hmem
    have hupdate := updateTranslations_of_mem hmem pairs
    exact ⟨_, hupdate, textsAdded_of_updateTranslations hupdate⟩
  · intro hmem
    have hupdate := updateTranslations_of_not_mem hmem pairs
    rw [hupdate]
    exact ⟨rfl, rfl⟩
  · intro target' pairs' h
    exact apply_updateTranslations_comm registry h
  · intro pairs'
    exact updateTranslations_append registry target pairs pairs'

/-- Of two German texts for a key the last one is found from Austria, and German texts for other
keys can be added before or after. -/
theorem reach_of_updateTranslations_german :
    "de" ∈ (standard .strict).languages ∧
      (∃ registry',
        (standard .strict).updateTranslations "de" [("Hello", "Tag"), ("Hello", "Hallo")] =
          .ok registry' ∧
        registry'.translation? "de_AT" "Hello" = some "Hallo") ∧
      ((standard .strict).apply
          (.updateTranslations "de" [("Hello", "Tag"), ("Hello", "Hallo")])).apply
          (.updateTranslations "de" [("Bye", "Servus")]) =
        ((standard .strict).apply (.updateTranslations "de" [("Bye", "Servus")])).apply
          (.updateTranslations "de" [("Hello", "Tag"), ("Hello", "Hallo")]) := by
  have hmem : "de" ∈ (standard .strict).languages := by decide +kernel
  have hreach := reach_of_updateTranslations (standard .strict) "de"
    [("Hello", "Tag"), ("Hello", "Hallo")]
  obtain ⟨registry', hupdate, hadded⟩ := hreach.2.2.1 hmem
  refine ⟨hmem, ⟨registry', hupdate, ?_⟩, ?_⟩
  · have hunshadowed : ∃ chain, (standard .strict).languages.chain "de_AT" = .ok chain ∧
        Languages.Unshadowed ((standard .strict).HasText "Hello") "de" chain :=
      ⟨_, rfl, by decide⟩
    obtain ⟨chain, hchain, hunshadowed⟩ := hunshadowed
    exact hadded.found [("Hello", "Tag")] "Hello" "Hallo" [] rfl (by decide) "de_AT" chain hchain
      hunshadowed
  · exact hreach.2.2.2.2.1 "de" [("Bye", "Servus")] (Or.inr (by decide))

end Phrasebook.Registry
