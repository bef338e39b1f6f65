import LayerLint.Convention.Controller
import LayerLint.Convention.Entity
import LayerLint.Convention.HookOrder
import LayerLint.Convention.PartialLoad.Basic
import LayerLint.Convention.ReactiveSave
import LayerLint.Convention.Service
import LayerLint.Rule.Engine

/-!
# The catalog of conventions

All rules in the order in which they run, and the engine of a configuration, which leaves out the
rules that are off.
-/

set_option autoImplicit false

namespace LayerLint

/-- All rules, in the order in which they run. -/
def defaultRules : List Rule :=
  [Convention.Controller.onlyOverrideParentMethods,
   Convention.Entity.defineEntityTypeConstant,
   Convention.Entity.defineTemplateTypeConstant,
   Convention.Entity.noEntityManagerInEntity,
   Convention.HookOrder.requireOrderProperty,
   Convention.ReactiveSave.noSameEntitySave,
   Convention.PartialLoad.saveRestrictedEntityFields,
   Convention.Service.callParentConstructor,
   Convention.Service.dependencyVisibilityOrFinal,
   Convention.Service.serviceMustExtendRecord]

/-- The engine with the rules that a configuration leaves on. -/
def Engine.ofConfig (config : Config) : Engine :=
  Engine.ofRules (defaultRules.filter fun rule => config.rules.isEnabled rule.id)

/-- A rule in a listing. -/
structure RuleLine where
  enabled : Bool
  id : String
  description : String
deriving DecidableEq, Inhabited

/-- All rules with whether a configuration leaves them on. -/
def ruleLines (config : Config) : List RuleLine :=
  defaultRules.map fun rule =>
    { enabled := config.rules.isEnabled rule.id, id := rule.id, description := rule.description }

end LayerLint
