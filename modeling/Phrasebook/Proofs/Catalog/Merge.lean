import Phrasebook.Catalog.Basic

/-!
What a merged catalog has for a key: the text that stands last for it among the pairs, or else what
was there before. Pairs with other keys can be merged in any order.
-/
namespace Phrasebook.Catalog

def lastText? (pairs : List (String × String)) (key : String) : Option String :=
  pairs.findSomeRev? fun (other, text) => if other = key then some text else none

variable {pairs : List (String × String)} {key : String}

theorem getElem?_merge (catalog : Catalog) (pairs : List (String × String)) (key : String) :
    (catalog.merge pairs)[key]? = (lastText? pairs key).or catalog[key]? := by
  simp only [merge, lastText?, Std.ExtTreeMap.getElem?_insertMany_list,
    Std.LawfulEqCmp.compare_eq_iff_eq]

theorem getElem?_ofPairs (pairs : List (String × String)) (key : String) :
    (ofPairs pairs)[key]? = lastText? pairs key := by
  have hmerge : ofPairs pairs = merge ∅ pairs := Std.ExtTreeMap.ofList_eq_insertMany_empty
  rw [hmerge, getElem?_merge, Std.ExtTreeMap.getElem?_empty, Option.or_none]

theorem mem_of_lastText? {text : String} (h : lastText? pairs key = some text) :
    (key, text) ∈ pairs := by
  rw [lastText?, List.findSomeRev?_eq_findSome?_reverse] at h
  obtain ⟨⟨other, found⟩, hpair, hfound⟩ := List.exists_of_findSome?_eq_some h
  obtain ⟨rfl, rfl⟩ : other = key ∧ found = text := by simpa using hfound
  exact List.mem_reverse.1 hpair

theorem lastText?_eq_none : lastText? pairs key = none ↔ key ∉ pairs.map Prod.fst := by
  rw [lastText?, List.findSomeRev?_eq_findSome?_reverse, List.findSome?_eq_none_iff]
  constructor
  · intro h hmem
    obtain ⟨⟨_, text⟩, hpair, rfl⟩ := List.mem_map.1 hmem
    simpa using h _ (List.mem_reverse.2 hpair)
  · rintro h ⟨other, text⟩ hpair
    have hne : other ≠ key := by
      rintro rfl
      exact h (List.mem_map_of_mem (List.mem_reverse.1 hpair))
    simp [hne]

theorem lastText?_of_last (front : List (String × String)) (text : String)
    {back : List (String × String)} (h : key ∉ back.map Prod.fst) :
    lastText? (front ++ (key, text) :: back) key = some text := by
  have hback : back.reverse.findSome? (fun (other, text) =>
      if other = key then some text else none) = none := by
    rw [← List.findSomeRev?_eq_findSome?_reverse]
    exact lastText?_eq_none.2 h
  simp [lastText?, List.findSomeRev?_eq_findSome?_reverse, hback]

theorem lastText?_of_mem (hnodup : (pairs.map Prod.fst).Nodup) {text : String}
    (h : (key, text) ∈ pairs) : lastText? pairs key = some text := by
  obtain ⟨front, back, rfl⟩ := List.append_of_mem h
  rw [List.map_append, List.map_cons] at hnodup
  have hback := (List.nodup_cons.1 (List.nodup_append.1 hnodup).2.1).1
  exact lastText?_of_last front text hback

theorem lastText?_of_perm (hnodup : (pairs.map Prod.fst).Nodup) {pairs' : List (String × String)}
    (h : pairs.Perm pairs') : lastText? pairs key = lastText? pairs' key := by
  have hnodup' : (pairs'.map Prod.fst).Nodup := (h.map Prod.fst).nodup_iff.1 hnodup
  by_cases hkey : key ∈ pairs.map Prod.fst
  · obtain ⟨⟨_, text⟩, hpair, rfl⟩ := List.mem_map.1 hkey
    rw [lastText?_of_mem hnodup hpair, lastText?_of_mem hnodup' (h.mem_iff.1 hpair)]
  · rw [lastText?_eq_none.2 hkey,
      lastText?_eq_none.2 fun hkey' => hkey ((h.map Prod.fst).mem_iff.2 hkey')]

theorem merge_merge_comm (catalog : Catalog) {pairs pairs' : List (String × String)}
    (h : ∀ key ∈ pairs.map Prod.fst, key ∉ pairs'.map Prod.fst) :
    (catalog.merge pairs).merge pairs' = (catalog.merge pairs').merge pairs := by
  apply Std.ExtTreeMap.ext_getElem?
  intro key
  simp only [getElem?_merge]
  by_cases hkey : key ∈ pairs.map Prod.fst
  · rw [lastText?_eq_none.2 (h key hkey), Option.none_or, Option.none_or]
  · rw [lastText?_eq_none.2 hkey, Option.none_or, Option.none_or]

end Phrasebook.Catalog
