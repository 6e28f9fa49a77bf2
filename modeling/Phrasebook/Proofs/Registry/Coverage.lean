import Phrasebook.Proofs.Registry.Outcome

/-!
Complete catalogs. The key that values select is among the keys of the pattern, so once all of
these have an entry somewhere along the chain, only unsuitable values keep a rendering from finding
a text.
-/
namespace Phrasebook.Registry

def Covers (registry : Registry) (chain : List Language) (keys : List String) : Prop :=
  ∀ key ∈ keys, ∃ language ∈ chain, (registry.localText? language.code key).isSome

instance (registry : Registry) (chain : List Language) (keys : List String) :
    Decidable (registry.Covers chain keys) :=
  inferInstanceAs (Decidable
    (∀ key ∈ keys, ∃ language ∈ chain, (registry.localText? language.code key).isSome))

variable {registry : Registry} {code source : String} {pattern : Pattern}

theorem translation?_of_covers {chain : List Language} {keys : List String} {key : String}
    (hchain : registry.languages.chain code = .ok chain) (hcovers : registry.Covers chain keys)
    (hkey : key ∈ keys) : ∃ template, registry.translation? code key = some template := by
  rw [translation?_of_chain hchain, nearest?, ← Option.isSome_iff_exists,
    List.findSome?_isSome_iff]
  exact hcovers key hkey

/-- Renderings of a pattern with an entry for every key are catalog hits, each with the entry of the
nearest language that has one, or fail for their values. -/
theorem render_of_covered (hpattern : registry.pattern code source = .ok pattern) :
    registry.translationKeys code source = .ok pattern.keys ∧
      (∀ values key, pattern.lookupKey values = .ok key → key ∈ pattern.keys) ∧
      ∀ chain, registry.languages.chain code = .ok chain →
        registry.Covers chain pattern.keys → ∀ values,
          (∃ error, error.IsAboutValues ∧ registry.render code source values =
            (.error error, { registry with metrics := registry.metrics.countFailure })) ∨
          ∃ key template nearer language further, pattern.lookupKey values = .ok key ∧
            chain = nearer ++ language :: further ∧
            (∀ other ∈ nearer, registry.localText? other.code key = none) ∧
            registry.localText? language.code key = some template ∧
            registry.translation? code key = some template ∧
            registry.render code source values = (.ok (pattern.fill values template),
              { registry with metrics := registry.metrics.countHit }) := by
  refine ⟨?_, ?_, ?_⟩
  · unfold translationKeys
    rw [hpattern]
    rfl
  · intro values key hkey
    exact Pattern.mem_keys_of_lookupKey hkey
  · intro chain hchain hcovers values
    obtain ⟨language, hlanguage⟩ := Languages.exists_of_chain hchain
    have hrendering := rendering_eq_outcome hlanguage hpattern values
    unfold render
    cases hkey : pattern.lookupKey values with
    | error error =>
      rw [hkey] at hrendering
      refine Or.inl ⟨error, Pattern.isAboutValues_of_selectKey hkey, ?_⟩
      rw [hrendering]
      rfl
    | ok key =>
      obtain ⟨template, htemplate⟩ :=
        translation?_of_covers hchain hcovers (Pattern.mem_keys_of_lookupKey hkey)
      rw [hkey] at hrendering
      obtain ⟨nearer, nearest, further, hsplit, hnearer, htext⟩ :=
        translation?_eq_some_iff.1 htemplate
      obtain rfl := Except.ok.inj (hchain.symm.trans hsplit)
      refine Or.inr ⟨key, template, nearer, nearest, further, rfl, rfl, hnearer, htext, htemplate,
        ?_⟩
      rw [hrendering]
      simp only [bind, Except.bind]
      rw [htemplate]
      rfl

theorem render_of_covered_inherited :
    ∃ registry pattern chain,
      (standard .strict).updateTranslations "de"
        [(braced "one(number(n))", "ein Baum"), (braced "zero(number(n))", "Bäume")] =
          .ok registry ∧
      registry.pattern "de_AT" (braced "number(n)") = .ok pattern ∧
      registry.languages.chain "de_AT" = .ok chain ∧ registry.Covers chain pattern.keys ∧
      ∀ values error, (registry.render "de_AT" (braced "number(n)") values).1 = .error error →
        error.IsAboutValues := by
  have hcovers : ∃ registry pattern chain,
      (standard .strict).updateTranslations "de"
        [(braced "one(number(n))", "ein Baum"), (braced "zero(number(n))", "Bäume")] =
          .ok registry ∧
      registry.pattern "de_AT" (braced "number(n)") = .ok pattern ∧
      registry.languages.chain "de_AT" = .ok chain ∧ registry.Covers chain pattern.keys :=
    ⟨_, _, _, rfl, rfl, rfl, by decide⟩
  obtain ⟨registry, pattern, chain, hregistry, hpattern, hchain, hcovers⟩ := hcovers
  refine ⟨registry, pattern, chain, hregistry, hpattern, hchain, hcovers, ?_⟩
  intro values error herror
  rcases (render_of_covered hpattern).2.2 chain hchain hcovers values with
    ⟨found, habout, hrender⟩ | ⟨key, template, -, -, -, -, -, -, -, -, hrender⟩
  · rw [hrender] at herror
    cases herror
    exact habout
  · rw [hrender] at herror
    contradiction

end Phrasebook.Registry
