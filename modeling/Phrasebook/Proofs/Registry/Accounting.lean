import Phrasebook.Proofs.Registry.Loading
import Phrasebook.Proofs.Registry.Operation
import Phrasebook.Proofs.Registry.Outcome

/-!
What the counters count. Since a registry was made or last reset, every call that renders has been
counted once, by what it came to (`metrics_of_counted`). Updates leave the counters alone, because
they write languages and catalogs only (`exists_apply_of_isUpdate`).
-/
namespace Phrasebook

namespace Registry

/-- A call that renders: directly, with arguments in JSON form, or by a renderer for one
language. -/
inductive Request where
  | render (code source : String) (values : Values)
  | renderJson (code : String) (source values : Json)
  | renderer (code source : String) (values : Values)

def answer (registry : Registry) : Request → Except Error String × Registry
  | .render code source values => registry.render code source values
  | .renderJson code source values => registry.renderJson code source values
  | .renderer code source values => renderer code registry source values

def found? (registry : Registry) (code source : String) (values : Values) : Option String := do
  let pattern ← (registry.pattern code source).toOption
  let key ← (pattern.lookupKey values).toOption
  let chain ← (registry.languages.chain code).toOption
  registry.nearest? key chain

def Request.arguments : Request → Except Error (String × String × Values)
  | .render code source values => .ok (code, source, values)
  | .renderJson code source values =>
    (argumentsOfJson source values).map fun (source, values) => (code, source, values)
  | .renderer code source values => .ok (code, source, values)

def requested? (registry : Registry) (request : Request) : Option String :=
  request.arguments.toOption.bind fun (code, source, values) => registry.found? code source values

structure Call where
  registry : Registry
  request : Request

namespace Call

def result (call : Call) : Except Error String :=
  (call.registry.answer call.request).1

def failed (call : Call) : Bool :=
  !call.result.isOk

def hit (call : Call) : Bool :=
  call.result.isOk && (call.registry.requested? call.request).isSome

def passedThrough (call : Call) : Bool :=
  call.result.isOk && !(call.registry.requested? call.request).isSome

end Call

end Registry

def Operation.IsUpdate : Operation → Prop
  | .render _ _ _ => False
  | .renderJson _ _ _ => False
  | .reset => False
  | _ => True

namespace Registry

/-- The calls that a registry has answered since it was made or last reset. -/
inductive Counted : Registry → List Call → Prop
  | empty (mode : RenderMode) : Counted { mode } []
  | standard (mode : RenderMode) : Counted (standard mode) []
  | request {registry : Registry} {calls : List Call} (counted : Counted registry calls)
      (request : Request) :
      Counted (registry.answer request).2 (calls ++ [⟨registry, request⟩])
  | update {registry : Registry} {calls : List Call} (counted : Counted registry calls)
      (operation : Operation) (update : operation.IsUpdate) :
      Counted (registry.apply operation) calls
  | reset {registry : Registry} {calls : List Call} (counted : Counted registry calls) :
      Counted (registry.apply .reset) []

variable {registry : Registry} {code source : String} {values : Values}

theorem exists_updated {update : Except Error Registry}
    (h : ∀ registry', update = .ok registry' →
      ∃ languages catalogs, registry' = { registry with languages, catalogs }) :
    ∃ languages catalogs, registry.updated update = { registry with languages, catalogs } := by
  cases update with
  | error => exact ⟨registry.languages, registry.catalogs, rfl⟩
  | ok registry' => exact h registry' rfl

theorem exists_apply_of_isUpdate {operation : Operation} (h : operation.IsUpdate) :
    ∃ languages catalogs, registry.apply operation = { registry with languages, catalogs } := by
  cases operation with
  | registerStandard => exact ⟨_, _, rfl⟩
  | register language built => exact ⟨_, _, rfl⟩
  | extendLanguage parent code =>
    refine exists_updated fun registry' hupdate => ?_
    obtain ⟨language, -, rfl⟩ := eq_of_extendLanguage hupdate
    exact ⟨_, _, rfl⟩
  | updateDomain code name categories format =>
    refine exists_updated fun registry' hupdate => ?_
    obtain ⟨domain, -, hupdate⟩ := exists_of_bind_eq_ok hupdate
    obtain ⟨language, -, rfl⟩ := eq_of_updateDomain hupdate
    exact ⟨_, _, rfl⟩
  | updateTranslations code pairs =>
    refine exists_updated fun registry' hupdate => ?_
    obtain rfl := eq_of_updateTranslations hupdate
    exact ⟨_, _, rfl⟩
  | loadChain tree folder code =>
    obtain ⟨catalogs, heq⟩ := exists_catalogs_loadChain registry tree folder code
    exact ⟨_, catalogs, heq⟩
  | render code source values => exact h.elim
  | renderJson code source values => exact h.elim
  | reset => exact h.elim

theorem exists_of_rendering {rendering : Rendering}
    (h : registry.rendering code source values = .ok rendering) :
    ∃ pattern key, registry.pattern code source = .ok pattern ∧
      pattern.lookupKey values = .ok key ∧
      outcome registry.mode pattern values key (registry.translation? code key) =
        .ok rendering := by
  obtain ⟨language, hlanguage, hnext⟩ := exists_of_language_bind h
  obtain ⟨pattern, hpattern, -⟩ := exists_of_bind_eq_ok hnext
  rw [rendering_eq_outcome hlanguage hpattern] at h
  obtain ⟨key, hkey, houtcome⟩ := exists_of_bind_eq_ok h
  exact ⟨pattern, key, hpattern, hkey, houtcome⟩

theorem found?_eq_translation? {pattern : Pattern} {key : String}
    (hpattern : registry.pattern code source = .ok pattern)
    (hkey : pattern.lookupKey values = .ok key) :
    registry.found? code source values = registry.translation? code key := by
  rw [found?, hpattern]
  simp only [Except.toOption, hkey, Option.bind_eq_bind, Option.bind_some]
  cases hchain : registry.languages.chain code with
  | error error =>
    unfold translation?
    rw [hchain]
    rfl
  | ok chain => exact (translation?_of_chain hchain key).symm

theorem translated_of_rendering {rendering : Rendering}
    (h : registry.rendering code source values = .ok rendering) :
    rendering.translated = (registry.found? code source values).isSome := by
  obtain ⟨pattern, key, hpattern, hkey, houtcome⟩ := exists_of_rendering h
  rw [found?_eq_translation? hpattern hkey]
  cases htext : registry.translation? code key with
  | some text =>
    rw [htext] at houtcome
    cases houtcome
    rfl
  | none =>
    rw [htext] at houtcome
    cases hmode : registry.mode with
    | passthrough =>
      rw [hmode] at houtcome
      cases houtcome
      rfl
    | strict =>
      rw [hmode] at houtcome
      contradiction

theorem translated_of_strict (hmode : registry.mode = .strict) {rendering : Rendering}
    (h : registry.rendering code source values = .ok rendering) : rendering.translated = true := by
  obtain ⟨pattern, key, -, -, houtcome⟩ := exists_of_rendering h
  rw [hmode] at houtcome
  cases htext : registry.translation? code key with
  | some text =>
    rw [htext] at houtcome
    cases houtcome
    rfl
  | none =>
    rw [htext] at houtcome
    contradiction

/-- The counter that goes up, by what is returned and whether a text was found. -/
def counted (metrics : Metrics) (isOk isFound : Bool) : Metrics :=
  if isOk then if isFound then metrics.countHit else metrics.countPassthrough
  else metrics.countFailure

theorem total_counted (metrics : Metrics) (isOk isFound : Bool) :
    (counted metrics isOk isFound).total = metrics.total + 1 := by
  cases isOk <;> cases isFound <;> simp [counted]

theorem metrics_render (registry : Registry) (code source : String) (values : Values) :
    (registry.render code source values).2.metrics =
      counted registry.metrics (registry.render code source values).1.isOk
        (registry.found? code source values).isSome := by
  unfold render
  cases hrendering : registry.rendering code source values with
  | error error => rfl
  | ok rendering =>
    rw [← translated_of_rendering hrendering]
    rfl

theorem answer_eq (registry : Registry) (request : Request) :
    registry.answer request = match request.arguments with
      | .ok (code, source, values) => registry.render code source values
      | .error error =>
        (.error error, { registry with metrics := registry.metrics.countFailure }) := by
  cases request with
  | render | renderer => rfl
  | renderJson code source values =>
    rw [answer, renderJson, Request.arguments]
    cases argumentsOfJson source values <;> rfl

theorem metrics_answer (registry : Registry) (request : Request) :
    (registry.answer request).2.metrics =
      counted registry.metrics (registry.answer request).1.isOk
        (registry.requested? request).isSome := by
  rw [answer_eq, requested?]
  cases request.arguments with
  | error error => rfl
  | ok arguments => exact metrics_render registry arguments.1 arguments.2.1 arguments.2.2

theorem isSome_found?_of_strict (hmode : registry.mode = .strict)
    (h : (registry.render code source values).1.isOk = true) :
    (registry.found? code source values).isSome = true := by
  unfold render at h
  cases hrendering : registry.rendering code source values with
  | error error =>
    rw [hrendering] at h
    contradiction
  | ok rendering =>
    rw [← translated_of_rendering hrendering]
    exact translated_of_strict hmode hrendering

theorem isSome_requested?_of_strict (hmode : registry.mode = .strict) {request : Request}
    (hok : (registry.answer request).1.isOk = true) :
    (registry.requested? request).isSome = true := by
  rw [answer_eq] at hok
  rw [requested?]
  cases h : request.arguments with
  | error error =>
    rw [h] at hok
    contradiction
  | ok arguments =>
    rw [h] at hok
    exact isSome_found?_of_strict hmode hok

theorem mode_answer (registry : Registry) (request : Request) :
    (registry.answer request).2.mode = registry.mode := by
  rw [answer_eq]
  cases request.arguments <;> rfl

structure Accounts (registry : Registry) (calls : List Call) : Prop where
  total : registry.metrics.total = calls.length
  hits : registry.metrics.catalogHits = calls.countP Call.hit
  passthroughs : registry.metrics.passthroughRenders = calls.countP Call.passedThrough
  failures : registry.metrics.renderFailures = calls.countP Call.failed
  strict : registry.mode = .strict → registry.metrics.passthroughRenders = 0

theorem accounts_nil (h : registry.metrics = {}) : Accounts registry [] := by
  constructor <;> simp [h, Metrics.total]

/-- The step of the induction: one call, one counter. -/
theorem Accounts.answer {calls : List Call} (h : Accounts registry calls) (request : Request) :
    Accounts (registry.answer request).2 (calls ++ [⟨registry, request⟩]) := by
  have hmetrics := metrics_answer registry request
  have hhit : Call.hit ⟨registry, request⟩ =
      ((registry.answer request).1.isOk && (registry.requested? request).isSome) := rfl
  have hpassed : Call.passedThrough ⟨registry, request⟩ =
      ((registry.answer request).1.isOk && !(registry.requested? request).isSome) := rfl
  have hfailed : Call.failed ⟨registry, request⟩ = !(registry.answer request).1.isOk := rfl
  have hstrict (hmode : registry.mode = .strict) (hok : (registry.answer request).1.isOk = true) :=
    isSome_requested?_of_strict hmode hok
  generalize (registry.answer request).1.isOk = isOk at hmetrics hhit hpassed hfailed hstrict
  generalize (registry.requested? request).isSome = isFound at hmetrics hhit hpassed hstrict
  constructor
  · rw [hmetrics, total_counted, List.length_append, h.total]
    rfl
  · rw [hmetrics, List.countP_append, List.countP_singleton, hhit, ← h.hits]
    cases isOk <;> cases isFound <;> rfl
  · rw [hmetrics, List.countP_append, List.countP_singleton, hpassed, ← h.passthroughs]
    cases isOk <;> cases isFound <;> rfl
  · rw [hmetrics, List.countP_append, List.countP_singleton, hfailed, ← h.failures]
    cases isOk <;> cases isFound <;> rfl
  · intro hmode
    rw [mode_answer] at hmode
    rw [hmetrics]
    cases isOk with
    | false => exact h.strict hmode
    | true =>
      rw [hstrict hmode rfl]
      exact h.strict hmode

theorem Accounts.update {calls : List Call} (h : Accounts registry calls) {operation : Operation}
    (hupdate : operation.IsUpdate) : Accounts (registry.apply operation) calls := by
  obtain ⟨languages, catalogs, heq⟩ := exists_apply_of_isUpdate hupdate
  rw [heq]
  exact { h with }

theorem accounts_of_counted {calls : List Call} (h : Counted registry calls) :
    Accounts registry calls := by
  induction h with
  | empty mode => exact accounts_nil rfl
  | standard mode => exact accounts_nil rfl
  | request counted request ih => exact ih.answer request
  | update counted operation update ih => exact ih.update update
  | reset counted ih => exact accounts_nil rfl

/-- Every call has been counted once, and only calls and resets change a counter. -/
theorem metrics_of_counted {calls : List Call} (h : Counted registry calls) :
    registry.metrics.catalogHits + registry.metrics.passthroughRenders +
        registry.metrics.renderFailures = calls.length ∧
      registry.metrics.renderFailures = calls.countP Call.failed ∧
      registry.metrics.catalogHits = calls.countP Call.hit ∧
      registry.metrics.passthroughRenders = calls.countP Call.passedThrough ∧
      (registry.mode = .strict → registry.metrics.passthroughRenders = 0) ∧
      (∀ operation, operation.IsUpdate →
        (registry.apply operation).metrics = registry.metrics) ∧
      (registry.apply .reset).metrics = {} := by
  have haccounts := accounts_of_counted h
  refine ⟨haccounts.total, haccounts.failures, haccounts.hits, haccounts.passthroughs,
    haccounts.strict, ?_, rfl⟩
  intro operation hupdate
  obtain ⟨languages, catalogs, heq⟩ := exists_apply_of_isUpdate hupdate
  rw [heq]

/-- A greeting that is found, one that is not, a source in JSON form that is no text, and an
unknown language; the calls before the reset do not count. -/
theorem metrics_of_counted_greetings :
    ∃ registry calls, Counted registry calls ∧ calls.length = 4 ∧
      registry.metrics.catalogHits = 1 ∧ registry.metrics.renderFailures = 2 := by
  have hrun : ∃ registry calls, Counted registry calls ∧ calls.length = 4 ∧
      calls.countP Call.hit = 1 ∧ calls.countP Call.failed = 2 :=
    ⟨_, _, ((((((Counted.standard .passthrough).request (.render "en" "Hello" ∅)).reset.update
      (.updateTranslations "de" [("Hello", "Hallo")]) trivial).request
      (.renderer "de_AT" "Hello" ∅)).request (.render "en" "Hello" ∅)).request
      (.renderJson "de" .null .null)).request (.render "fr" "Hello" ∅), rfl, rfl, rfl⟩
  obtain ⟨registry, calls, hcounted, hlength, hhits, hfailures⟩ := hrun
  obtain ⟨-, hfailures', hhits', -⟩ := metrics_of_counted hcounted
  exact ⟨registry, calls, hcounted, hlength, hhits'.trans hhits, hfailures'.trans hfailures⟩

end Registry

end Phrasebook
