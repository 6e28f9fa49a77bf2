import Phrasebook.Language.Standard
import Phrasebook.Proofs.Date.Reading

/-!
Dates in the languages that come with the library. A date and a text that holds it are the same to
the domain `date` of each of them, and what the root writes for one of the two is again a text that
holds the date (`Standard.dates_and_texts_interchange`).
-/
namespace Phrasebook

/-- The domain covers exactly the values that hold a date, and of such a value it writes only the
date. -/
structure Domain.CoversDates (domain : Domain) : Prop where
  classify_eq_ok : ∀ value date, value.date? = some date →
    ∃ category, domain.classify value = .ok category ∧ category.name = "date"
  classify_eq_error : ∀ value, value.date? = none →
    domain.classify value = .error (.notCovered value.display "date" none)
  format_eq : ∀ value date, value.date? = some date →
    domain.format value = domain.format (.date date)

namespace Standard

theorem format_date (write : Date → String) {value : Value} {date : Date}
    (h : value.date? = some date) : (Standard.date write).format value = write date := by
  simp only [Standard.date, h]

theorem format_of_date?_eq_none (write : Date → String) {value : Value} (h : value.date? = none) :
    (Standard.date write).format value = value.shown := by
  simp only [Standard.date, h]

theorem coversDates_date (write : Date → String) : (Standard.date write).CoversDates where
  classify_eq_ok value date h := by
    refine ⟨⟨"date", fun value => value.date?.isSome⟩, ?_, rfl⟩
    rw [Domain.classify_eq_ok]
    simp [Domain.category?, Standard.date, h]
  classify_eq_error value h := by
    simp [Domain.classify, Domain.category?, Standard.date, h]
  format_eq value date h := by
    rw [format_date write h, format_date write rfl]

theorem resolveDomain_date {language : Language} (h : language ∈ languages) :
    ∃ write, (Languages.ofLanguages languages).resolveDomain language.code "date" =
      .ok (date write) := by
  simp only [languages, List.mem_cons, List.not_mem_nil, or_false] at h
  rcases h with rfl | rfl | rfl | rfl | rfl
  · exact ⟨Date.isoText, rfl⟩
  · exact ⟨Date.isoText, rfl⟩
  · exact ⟨Date.dottedText, rfl⟩
  · exact ⟨Date.dottedText, rfl⟩
  · exact ⟨Date.dottedText, rfl⟩

theorem resolveDomain_root_date :
    (Languages.ofLanguages languages).resolveDomain "root" "date" = .ok (date Date.isoText) :=
  rfl

theorem format_isoText_format (value : Value) :
    (date Date.isoText).format (.text ((date Date.isoText).format value)) =
      (date Date.isoText).format value := by
  cases hdate : value.date? with
  | none =>
    have hagain := Value.date?_shown_eq_none hdate
    rw [format_of_date?_eq_none _ hdate, format_of_date?_eq_none _ hagain]
    rfl
  | some found =>
    rw [format_date _ hdate, format_date _ (Value.date?_isoText found)]

theorem dates_and_texts_interchange {language : Language} (h : language ∈ languages) :
    ∃ domain root,
      (Languages.ofLanguages languages).resolveDomain language.code "date" = .ok domain ∧
      (Languages.ofLanguages languages).resolveDomain "root" "date" = .ok root ∧
      domain.CoversDates ∧
      (∀ value found, value.date? = some found →
        root.format value = (Value.date found).display ∧
        (Value.text (root.format value)).date? = some found) ∧
      ∀ value, root.format (.text (root.format value)) = root.format value := by
  obtain ⟨write, hdomain⟩ := resolveDomain_date h
  refine ⟨date write, date Date.isoText, hdomain, resolveDomain_root_date, coversDates_date write,
    fun value found hfound => ?_, format_isoText_format⟩
  rw [format_date _ hfound]
  exact ⟨rfl, Value.date?_isoText found⟩

/-- The ides of March of 44 BC, and a day that the year does not have. -/
theorem dates_and_texts_interchange_german :
    german ∈ languages ∧
      ∃ domain root found,
        (Languages.ofLanguages languages).resolveDomain "de" "date" = .ok domain ∧
        (Languages.ofLanguages languages).resolveDomain "root" "date" = .ok root ∧
        (Value.text "-43-3-15").date? = some found ∧
        domain.format (.text "-43-3-15") = domain.format (.date found) ∧
        root.format (.text "-43-3-15") = "-0043-03-15" ∧
        (Value.text "2023-02-29").date? = none ∧
        domain.classify (.text "2023-02-29") = .error (.notCovered "2023-02-29" "date" none) := by
  have hmem : german ∈ languages := by simp [languages]
  obtain ⟨domain, root, hdomain, hroot, hcovers, hread, -⟩ := dates_and_texts_interchange hmem
  have hfound : (Value.text "-43-3-15").date? = some ⟨-43, 3, 15, by decide⟩ := by decide +kernel
  have hnone : (Value.text "2023-02-29").date? = none := by decide +kernel
  refine ⟨hmem, domain, root, _, hdomain, hroot, hfound, hcovers.format_eq _ _ hfound, ?_, hnone,
    hcovers.classify_eq_error _ hnone⟩
  rw [(hread _ _ hfound).1]
  decide +kernel

end Standard

end Phrasebook
