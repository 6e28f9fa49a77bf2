import Phrasebook.Error
import Phrasebook.Text.Reserved
import Phrasebook.Value

/-!
Domains: kinds of values, such as numbers or genders, as one language sees them. The categories of
a domain are the groups of values that the grammar of the language treats differently. A value
belongs to the first category that covers it.
-/
namespace Phrasebook

structure Category where
  name : String
  covers : Value → Bool

namespace Category

def catchAll (name : String) : Category :=
  ⟨name, fun _ => true⟩

end Category

structure Domain where
  name : String
  categories : List Category
  format : Value → String
  name_ne_empty : name ≠ ""
  isPlain_name : isPlain name = true
  categories_ne_nil : categories ≠ []

namespace Domain

/-- A domain, if its name can stand in a placeholder and it has a category. -/
def of (name : String) (categories : List Category) (format : Value → String) :
    Except Error Domain :=
  if hname : name = "" then .error (.invalidDomain name .emptyName)
  else if hplain : isPlain name = true then
    if hcategories : categories = [] then .error (.invalidDomain name .noCategory)
    else .ok ⟨name, categories, format, hname, hplain, hcategories⟩
  else .error (.invalidDomain name .reservedCharacter)

def category? (domain : Domain) (value : Value) : Option Category :=
  domain.categories.find? (·.covers value)

def classify (domain : Domain) (value : Value) : Except Error Category :=
  match domain.category? value with
  | some category => .ok category
  | none => .error (.notCovered value.display domain.name none)

@[simp] theorem of_self (domain : Domain) :
    of domain.name domain.categories domain.format = .ok domain := by
  simp [of, domain.name_ne_empty, domain.isPlain_name, domain.categories_ne_nil]

theorem of_eq_ok_iff {name : String} {categories : List Category} {format : Value → String}
    {domain : Domain} :
    of name categories format = .ok domain ↔
      domain.name = name ∧ domain.categories = categories ∧ domain.format = format := by
  constructor
  · intro h
    unfold of at h
    split at h
    · contradiction
    · split at h
      · split at h
        · contradiction
        · cases h
          exact ⟨rfl, rfl, rfl⟩
      · contradiction
  · rintro ⟨rfl, rfl, rfl⟩
    exact of_self domain

theorem classify_eq_ok {domain : Domain} {value : Value} {category : Category} :
    domain.classify value = .ok category ↔ domain.category? value = some category := by
  unfold classify
  split <;> simp_all

theorem mem_categories_of_classify {domain : Domain} {value : Value} {category : Category}
    (h : domain.classify value = .ok category) : category ∈ domain.categories :=
  List.mem_of_find?_eq_some (classify_eq_ok.1 h)

theorem covers_of_classify {domain : Domain} {value : Value} {category : Category}
    (h : domain.classify value = .ok category) : category.covers value = true :=
  List.find?_some (p := fun category : Category => category.covers value) (classify_eq_ok.1 h)

end Domain

end Phrasebook
