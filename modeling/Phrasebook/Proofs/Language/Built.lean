import Mathlib.Data.List.Nodup
import Phrasebook.Language.Standard

/-!
Languages as an application makes them: from nothing, by extending another one, and by adding
domains that were accepted. The local domains of such a language have distinct names
(`Built.nodup_names`), because a domain takes the place of the one of its name
(`placed_putDomain`). The standard languages are made in the same way (`built_of_mem_standard`).
-/
namespace Phrasebook.Language

inductive Built : Language → Prop
  | new (code : String) : Built { code }
  | extend {language : Language} (built : Built language) (code : String) :
      Built (language.extend code)
  | withDomain {language : Language} (built : Built language) {name : String}
      {categories : List Category} {format : Value → String} {domain : Domain}
      (accepted : Domain.of name categories format = .ok domain) :
      Built (language.updateDomain domain)

theorem built_extend (language : Language) (code : String) : Built (language.extend code) :=
  (Built.new language.code).extend code

theorem map_name_putDomain (domain : Domain) (domains : List Domain) :
    (putDomain domain domains).map (·.name) =
      if domain.name ∈ domains.map (·.name) then domains.map (·.name)
      else domains.map (·.name) ++ [domain.name] := by
  induction domains with
  | nil => rfl
  | cons other others ih =>
    rw [putDomain]
    split
    · next heq => simp [heq]
    · next hne =>
      rw [List.map_cons, ih, List.map_cons]
      by_cases hmem : domain.name ∈ others.map (·.name)
      · rw [if_pos hmem, if_pos (List.mem_cons_of_mem _ hmem)]
      · have hboth : domain.name ∉ other.name :: others.map (·.name) :=
          List.not_mem_cons_of_ne_of_not_mem (Ne.symm hne) hmem
        rw [if_neg hmem, if_neg hboth]
        rfl

theorem nodup_putDomain {domains : List Domain} (h : (domains.map (·.name)).Nodup)
    (domain : Domain) : ((putDomain domain domains).map (·.name)).Nodup := by
  rw [map_name_putDomain]
  split
  · exact h
  · next hmem => exact List.nodup_append_comm.1 (List.nodup_cons.2 ⟨hmem, h⟩)

/-- The domains as they are with this one added: it has the place of the one of its name, or stands
at the end. -/
inductive Placed (domain : Domain) : List Domain → List Domain → Prop
  | replaced (front back : List Domain) {old : Domain} (hold : old.name = domain.name)
      (hothers : ∀ other ∈ front ++ back, other.name ≠ domain.name) :
      Placed domain (front ++ old :: back) (front ++ domain :: back)
  | appended {domains : List Domain} (hothers : ∀ other ∈ domains, other.name ≠ domain.name) :
      Placed domain domains (domains ++ [domain])

theorem placed_putDomain (domain : Domain) {domains : List Domain}
    (h : (domains.map (·.name)).Nodup) : Placed domain domains (putDomain domain domains) := by
  induction domains with
  | nil => exact .appended fun _ hother => absurd hother List.not_mem_nil
  | cons first domains ih =>
    rw [List.map_cons, List.nodup_cons] at h
    rw [putDomain]
    split
    · next heq =>
      refine .replaced [] domains heq fun other hother hname => h.1 ?_
      rw [heq, ← hname]
      exact List.mem_map_of_mem hother
    · next hne =>
      generalize hput : putDomain domain domains = placed at ih
      cases ih h.2 with
      | replaced front back hold hothers =>
        exact .replaced (first :: front) back hold (List.forall_mem_cons.2 ⟨hne, hothers⟩)
      | appended hothers => exact .appended (List.forall_mem_cons.2 ⟨hne, hothers⟩)

namespace Built

variable {language : Language}

theorem nodup_names (built : Built language) : (language.domains.map (·.name)).Nodup := by
  induction built with
  | new code => exact List.nodup_nil
  | extend _ code _ => exact List.nodup_nil
  | @withDomain language _ name categories format domain accepted ih =>
    exact nodup_putDomain ih domain

theorem updateDomain (built : Built language) (domain : Domain) :
    Built (language.updateDomain domain) :=
  built.withDomain domain.of_self

end Built

open Standard in
theorem built_root : Built root :=
  ((((Built.new "root").updateDomain plain).updateDomain rootNumber).updateDomain
    (gender Value.shown)).updateDomain (date Date.isoText)

theorem built_german : Built Standard.german :=
  (((built_extend _ "de").updateDomain _).updateDomain _).updateDomain _

theorem built_of_mem_standard (h : language ∈ Standard.languages) : Built language := by
  simp only [Standard.languages, List.mem_cons, List.not_mem_nil, or_false] at h
  rcases h with rfl | rfl | rfl | rfl | rfl
  · exact built_root
  · exact (built_extend _ "en").updateDomain _
  · exact built_german
  · exact built_extend _ "de_DE"
  · exact built_extend _ "de_AT"

end Phrasebook.Language
