import Phrasebook.Registry.Basic

/-!
Rendering with the languages and catalogs of a registry. Every rendering is counted once, by its
outcome.
-/
namespace Phrasebook.Registry

def rendering (registry : Registry) (code source : String) (values : Values) :
    Except Error Rendering := do
  let _ ← registry.language code
  let pattern ← registry.pattern code source
  let rendering ← pattern.render values (registry.translation? code)
  if !rendering.translated && registry.mode == .strict then
    throw (.untranslated rendering.key)
  return rendering

def count (metrics : Metrics) : Except Error Rendering → Metrics
  | .ok rendering =>
    if rendering.translated then metrics.countHit else metrics.countPassthrough
  | .error _ => metrics.countFailure

def render (registry : Registry) (code source : String) (values : Values) :
    Except Error String × Registry :=
  let outcome := registry.rendering code source values
  (outcome.map (·.text), { registry with metrics := count registry.metrics outcome })

/-- Rendering bound to one language. Each call meets the registry as it is by then. -/
def renderer (code : String) (registry : Registry) (source : String) (values : Values) :
    Except Error String × Registry :=
  registry.render code source values

def valuesOfJson (json : Json) : Except Error Values :=
  match json with
  | .null => .ok ∅
  | json =>
    match Values.ofJson? json with
    | some values => .ok values
    | none => .error (.valuesNotObject json.canonical.compactText)

def sourceOfJson (json : Json) : Except Error String :=
  match json.text? with
  | some source => .ok source
  | none => .error (.sourceNotText json.canonical.compactText)

def argumentsOfJson (source values : Json) : Except Error (String × Values) :=
  return (← sourceOfJson source, ← valuesOfJson values)

/-- Render a pattern and values in JSON form. Arguments of another form count as a failure. -/
def renderJson (registry : Registry) (code : String) (source values : Json) :
    Except Error String × Registry :=
  match argumentsOfJson source values with
  | .ok (source, values) => registry.render code source values
  | .error error => (.error error, { registry with metrics := registry.metrics.countFailure })

end Phrasebook.Registry
