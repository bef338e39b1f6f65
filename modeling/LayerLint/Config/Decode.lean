import LayerLint.Config.Basic
import LayerLint.Data.Value

/-!
# Configurations as data values

Decoding takes every setting that is present and keeps the default of one that is not. A setting of
the wrong type is refused, one that is not known is passed over. A group of settings may also be
given as an array, by position.
-/

set_option autoImplicit false

namespace LayerLint

open Data (Value)

namespace Config.Decode

/-- The setting with a name, decoded, or the default if it is absent. -/
def setting? {α : Type} (members : List (String × Value)) (name : String)
    (decode : Value → Option α) (default : α) : Option α :=
  match members.reverse.lookup name with
  | some v => decode v
  | none => some default

/-- A value that may be null. -/
def optional? {α : Type} (decode : Value → Option α) : Value → Option (Option α)
  | .null => some none
  | v => (decode v).map some

/-- A known class; its name is required. -/
def knownClass? (v : Value) : Option KnownClass := do
  let members ← Value.fields? ["name", "parent", "methods"] v
  let name ← (members.reverse.lookup "name").bind Value.string?
  let parent ← setting? members "parent" (optional? Value.string?) none
  let methods ← setting? members "methods" Value.strings? []
  return { name, parent, methods }

/-- The service settings. -/
def services? (v : Value) : Option ServiceSettings := do
  let defaults : ServiceSettings := {}
  let members ← Value.fields? ["record_base"] v
  let recordBase ← setting? members "record_base" Value.string? defaults.recordBase
  return { recordBase }

/-- The entity settings. -/
def entities? (v : Value) : Option EntitySettings := do
  let defaults : EntitySettings := {}
  let members ← Value.fields? ["template_types", "require_typed_constants"] v
  let templateTypes ← setting? members "template_types" Value.strings? defaults.templateTypes
  let requireTypedConstants ←
    setting? members "require_typed_constants" Value.bool? defaults.requireTypedConstants
  return { templateTypes, requireTypedConstants }

/-- The rule toggles. -/
def rules? (v : Value) : Option RuleToggles := do
  let members ← Value.fields? ["disabled"] v
  let disabled ← setting? members "disabled" Value.strings? []
  return { disabled }

end Config.Decode

open Config.Decode

/-- Decodes a configuration. -/
def Config.ofValue? (v : Value) : Option Config := do
  let defaults : Config := {}
  let members ← Value.fields? ["backend_root", "file_extensions", "ignore_patterns", "class_paths",
    "known_classes", "jobs", "services", "entities", "rules"] v
  let backendRoot ← setting? members "backend_root" Value.string? defaults.backendRoot
  let fileExtensions ← setting? members "file_extensions" Value.strings? defaults.fileExtensions
  let ignorePatterns ← setting? members "ignore_patterns" Value.strings? defaults.ignorePatterns
  let classPaths ← setting? members "class_paths"
    (fun v => v.strings?.map fun paths => paths.map Path.mk) defaults.classPaths
  let knownClasses ← setting? members "known_classes"
    (fun v => v.array?.bind fun items => items.mapM knownClass?) defaults.knownClasses
  let jobs ← setting? members "jobs" (optional? Value.count?) defaults.jobs
  let services ← setting? members "services" services? defaults.services
  let entities ← setting? members "entities" entities? defaults.entities
  let rules ← setting? members "rules" rules? defaults.rules
  return { backendRoot, fileExtensions, ignorePatterns, classPaths, knownClasses, jobs, services,
           entities, rules }

/-- A known class as a data value. -/
def KnownClass.toValue (known : KnownClass) : Value :=
  .record [("name", .string known.name), ("parent", .ofOption (known.parent.map .string)),
    ("methods", .ofStrings known.methods)]

/-- A configuration as a data value, with every setting present. -/
def Config.toValue (config : Config) : Value :=
  .record
    [("backend_root", .string config.backendRoot),
     ("file_extensions", .ofStrings config.fileExtensions),
     ("ignore_patterns", .ofStrings config.ignorePatterns),
     ("class_paths", .ofStrings (config.classPaths.map Path.text)),
     ("known_classes", .array (config.knownClasses.map KnownClass.toValue)),
     ("jobs", .ofOption (config.jobs.map .ofNat)),
     ("services", .record [("record_base", .string config.services.recordBase)]),
     ("entities", .record
       [("template_types", .ofStrings config.entities.templateTypes),
        ("require_typed_constants", .bool config.entities.requireTypedConstants)]),
     ("rules", .record [("disabled", .ofStrings config.rules.disabled)])]

end LayerLint
