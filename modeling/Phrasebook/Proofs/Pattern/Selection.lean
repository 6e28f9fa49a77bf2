import Phrasebook.Proofs.Pattern.Keys

/-!
The selected key. Values select one category for each placeholder, and the key that is looked up is
the source with the tags of these categories in the place of all words at once
(`exists_keyFor_of_lookupKey`).
-/
namespace Phrasebook

namespace Placeholder

def Selects (placeholder : Placeholder) (values : Values) (value : Value)
    (category : Category) : Prop :=
  values[placeholder.name]? = some value ∧ placeholder.domain.category? value = some category

theorem exists_selects_of_tagFor {placeholder : Placeholder} {values : Values} {tag : String}
    (h : placeholder.tagFor values = .ok tag) :
    ∃ value category, placeholder.Selects values value category ∧
      tag = placeholder.tag category.name := by
  unfold tagFor at h
  split at h
  · contradiction
  · next value hvalue =>
    split at h
    · next category hclassify =>
      cases h
      exact ⟨value, category, ⟨hvalue, Domain.classify_eq_ok.1 hclassify⟩, rfl⟩
    · contradiction

theorem Selects.mem_categories {placeholder : Placeholder} {values : Values} {value : Value}
    {category : Category} (h : placeholder.Selects values value category) :
    category ∈ placeholder.domain.categories :=
  List.mem_of_find?_eq_some h.2

end Placeholder

namespace Pattern

def SelectsAll (values : Values) (places : List (String × Placeholder))
    (choice : List Category) : Prop :=
  List.Forall₂ (fun place category => ∃ value, place.2.Selects values value category) places choice

variable {values : Values} {places : List (String × Placeholder)} {choice : List Category}

theorem SelectsAll.mem_choices (h : SelectsAll values places choice) : choice ∈ choices places := by
  rw [choices, List.mem_sections, List.forall₂_map_right_iff]
  apply List.Forall₂.flip
  apply h.imp
  rintro place category ⟨value, hselects⟩
  exact hselects.mem_categories

theorem SelectsAll.exists_wordFor (h : SelectsAll values places choice)
    (hwords : (places.map Prod.fst).Nodup) {place : String × Placeholder}
    (hplace : place ∈ places) :
    ∃ value category, place.2.Selects values value category ∧
      wordFor (places.zip choice) place.1 = place.2.tagWord category.name := by
  induction h with
  | nil => contradiction
  | @cons first category further choice hselects _ ih =>
    rw [List.zip_cons_cons]
    rw [List.map_cons, List.nodup_cons] at hwords
    rcases List.mem_cons.1 hplace with rfl | hmem
    · obtain ⟨value, hselects⟩ := hselects
      exact ⟨value, category, hselects, wordFor_cons_self _ _ _⟩
    · have hne : first.1 ≠ place.1 := by
        intro heq
        apply hwords.1
        rw [heq]
        exact List.mem_map_of_mem hmem
      rw [wordFor_cons_of_ne hne]
      exact ih hwords.2 hmem

theorem Independent.exists_choice_of_selectKey (h : Independent places) {text key : String}
    (hselect : selectKey values text places = .ok key) :
    ∃ choice, SelectsAll values places choice ∧
      key = replaceFragments (fun word => braced (wordFor (places.zip choice) word)) text := by
  induction places generalizing text with
  | nil =>
    cases hselect
    exact ⟨[], .nil, (replaceFragments_braced _).symm⟩
  | cons place places ih =>
    rw [selectKey] at hselect
    cases htag : place.2.tagFor values with
    | error =>
      rw [htag] at hselect
      contradiction
    | ok tag =>
      rw [htag] at hselect
      obtain ⟨value, category, hselects, rfl⟩ := Placeholder.exists_selects_of_tagFor htag
      obtain ⟨choice, hchoice, hkey⟩ := ih h.tail hselect
      refine ⟨category :: choice, .cons ⟨value, hselects⟩ hchoice, ?_⟩
      rw [hkey, h.replaceFragments_tag hselects.mem_categories]

theorem exists_keyFor_of_lookupKey {pattern : Pattern} {key : String}
    (h : Independent pattern.placeholders) (hkey : pattern.lookupKey values = .ok key) :
    ∃ choice, SelectsAll values pattern.placeholders choice ∧ key = pattern.keyFor choice :=
  h.exists_choice_of_selectKey hkey

end Pattern

end Phrasebook
