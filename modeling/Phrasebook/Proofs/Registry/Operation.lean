import Phrasebook.Catalog.Folder
import Phrasebook.Proofs.Language.Built
import Phrasebook.Registry.Rendering

/-!
What an application can do with a registry, and the registries that it can come to. An operation
that fails leaves the registry as it is, except that loading stops where it is and that a failed
rendering is counted.
-/
namespace Phrasebook

inductive Operation where
  | registerStandard
  | register (language : Language) (built : language.Built)
  | extendLanguage (parent code : String)
  /-- The domain is made first, which may fail. -/
  | updateDomain (code name : String) (categories : List Category) (format : Value → String)
  | updateTranslations (code : String) (pairs : List (String × String))
  | loadChain (tree : FileTree) (folder code : String)
  | render (code source : String) (values : Values)
  | renderJson (code : String) (source values : Json)
  | reset

namespace Registry

def updated (registry : Registry) : Except Error Registry → Registry
  | .ok updated => updated
  | .error _ => registry

def apply (registry : Registry) : Operation → Registry
  | .registerStandard => registry.registerStandard
  | .register language _ => registry.register language
  | .extendLanguage parent code => registry.updated (registry.extendLanguage parent code)
  | .updateDomain code name categories format =>
    registry.updated (Domain.of name categories format >>= registry.updateDomain code)
  | .updateTranslations code pairs => registry.updated (registry.updateTranslations code pairs)
  | .loadChain tree folder code => (registry.loadChain tree folder code).2
  | .render code source values => (registry.render code source values).2
  | .renderJson code source values => (registry.renderJson code source values).2
  | .reset => registry.reset

/-- The registries that come from an empty or a standard one by operations in any order. -/
inductive Reachable : Registry → Prop
  | empty (mode : RenderMode) : Reachable { mode }
  | standard (mode : RenderMode) : Reachable (standard mode)
  | apply {registry : Registry} (reachable : Reachable registry) (operation : Operation) :
      Reachable (registry.apply operation)

end Registry

end Phrasebook
