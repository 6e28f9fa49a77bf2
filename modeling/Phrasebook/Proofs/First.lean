/-!
The first item of a kind. Look-ups and checks go through a list, skip items of one kind, and stop
at the first item of another one; what is repeated later in the list makes no difference to them.
-/
namespace Phrasebook

def First {α : Type} (skipped found : α → Prop) (items : List α) : Prop :=
  ∃ front item back, items = front ++ item :: back ∧ (∀ other ∈ front, skipped other) ∧ found item

namespace First

variable {α : Type} {skipped found : α → Prop} {item : α} {items : List α}

theorem not_nil : ¬ First skipped found [] := by
  rintro ⟨front, item, back, heq, -⟩
  simp at heq

theorem cons_iff :
    First skipped found (item :: items) ↔ found item ∨ skipped item ∧ First skipped found items := by
  constructor
  · rintro ⟨_ | ⟨first, front⟩, other, back, heq, hfront, hfound⟩
    · cases heq
      exact Or.inl hfound
    · cases heq
      obtain ⟨hskipped, hrest⟩ := List.forall_mem_cons.1 hfront
      exact Or.inr ⟨hskipped, front, other, back, rfl, hrest, hfound⟩
  · rintro (hfound | ⟨hskipped, front, other, back, rfl, hfront, hfound⟩)
    · exact ⟨[], item, items, rfl, List.forall_mem_nil _, hfound⟩
    · exact ⟨item :: front, other, back, rfl, List.forall_mem_cons.2 ⟨hskipped, hfront⟩, hfound⟩

instance decidable [DecidablePred skipped] [DecidablePred found] :
    (items : List α) → Decidable (First skipped found items)
  | [] => isFalse not_nil
  | _ :: items =>
    have := decidable items
    decidable_of_iff' _ cons_iff

variable [BEq α] [LawfulBEq α]

theorem filter_iff (hskipped : skipped item) (hfound : ¬ found item) :
    First skipped found (items.filter (!· == item)) ↔ First skipped found items := by
  induction items with
  | nil => rfl
  | cons other items ih =>
    rw [List.filter_cons, cons_iff]
    by_cases heq : other = item
    · subst heq
      simp [ih, hskipped, hfound]
    · simp [heq, cons_iff, ih]

theorem eraseDups_iff (items : List α) :
    First skipped found items.eraseDups ↔ First skipped found items := by
  match items with
  | [] => rfl
  | item :: items =>
    rw [List.eraseDups_cons, cons_iff, cons_iff, eraseDups_iff]
    by_cases hfound : found item
    · simp [hfound]
    · simp only [hfound, false_or]
      exact and_congr_right fun hskipped => filter_iff hskipped hfound
termination_by items.length
decreasing_by exact Nat.lt_succ_of_le (List.length_filter_le _ _)

theorem append_cons_inj {α : Type} {mark : α} {front front' back back' : List α}
    (hfront : mark ∉ front) (hfront' : mark ∉ front')
    (h : front ++ mark :: back = front' ++ mark :: back') : front = front' ∧ back = back' := by
  induction front generalizing front' with
  | nil =>
    cases front' with
    | nil => exact ⟨rfl, (List.cons.inj h).2⟩
    | cons item front' =>
      rw [(List.cons.inj h).1] at hfront'
      exact absurd List.mem_cons_self hfront'
  | cons item front ih =>
    cases front' with
    | nil =>
      rw [(List.cons.inj h).1] at hfront
      exact absurd List.mem_cons_self hfront
    | cons item' front' =>
      obtain ⟨rfl, hrest⟩ := List.cons.inj h
      obtain ⟨rfl, rfl⟩ := ih (fun hmem => hfront (List.mem_cons_of_mem _ hmem))
        (fun hmem => hfront' (List.mem_cons_of_mem _ hmem)) hrest
      exact ⟨rfl, rfl⟩

end First

end Phrasebook
