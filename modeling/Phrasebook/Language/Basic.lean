import Phrasebook.Domain

/-!
Languages. A language has the domains in which it differs from its fallback, which it names by
code.
-/
namespace Phrasebook

structure Language where
  code : String
  fallback : Option String := none
  /-- Local domains, in the order in which they were first defined. -/
  domains : List Domain := []

namespace Language

/-- Put a domain in the place of the first one of the same name, or at the end. -/
def putDomain (domain : Domain) : List Domain → List Domain
  | [] => [domain]
  | other :: others =>
    if other.name = domain.name then domain :: others else other :: putDomain domain others

def updateDomain (language : Language) (domain : Domain) : Language :=
  { language with domains := putDomain domain language.domains }

def extend (language : Language) (code : String) : Language :=
  { code, fallback := some language.code }

def localDomain? (language : Language) (name : String) : Option Domain :=
  language.domains.find? (·.name == name)

theorem find?_putDomain (domain : Domain) (domains : List Domain) (name : String) :
    (putDomain domain domains).find? (·.name == name) =
      if domain.name = name then some domain else domains.find? (·.name == name) := by
  induction domains with
  | nil => by_cases h : domain.name = name <;> simp [putDomain, h]
  | cons other others ih =>
    rw [putDomain]
    split
    · next heq => by_cases h : domain.name = name <;> simp [h, heq]
    · next hne =>
      rw [List.find?_cons, List.find?_cons, ih]
      by_cases h : domain.name = name
      · simp [← h, beq_eq_false_iff_ne.2 hne]
      · simp [h]

@[simp] theorem localDomain?_updateDomain (language : Language) (domain : Domain)
    (name : String) :
    (language.updateDomain domain).localDomain? name =
      if domain.name = name then some domain else language.localDomain? name :=
  find?_putDomain domain language.domains name

@[simp] theorem localDomain?_extend (language : Language) (code name : String) :
    (language.extend code).localDomain? name = none :=
  rfl

end Language

end Phrasebook
