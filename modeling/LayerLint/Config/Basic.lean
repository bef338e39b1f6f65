import LayerLint.Path
import LayerLint.Text.Case
import LayerLint.Rule.Identifier

/-!
# Configuration

What a project may set, and the defaults for what it leaves out.
-/

set_option autoImplicit false

namespace LayerLint

/-- A class outside the analysed sources that searches for ancestors may see. -/
structure KnownClass where
  name : String
  parent : Option String := none
  methods : List String := []
deriving DecidableEq, Inhabited

/-- Settings of the service conventions. -/
structure ServiceSettings where
  /-- The direct parent that every service class needs. -/
  recordBase : String := "Espo\\Services\\Record"
deriving DecidableEq, Inhabited

/-- Settings of the entity conventions. -/
structure EntitySettings where
  /-- The templates an entity may name. -/
  templateTypes : List String := ["Base", "BasePlus", "Event"]
  /-- A constant without declared type does not count as an entity type. -/
  requireTypedConstants : Bool := true
deriving DecidableEq, Inhabited

/-- Which rules are off. -/
structure RuleToggles where
  /-- Rule identifiers, or bare rule names. -/
  disabled : List String := []
deriving DecidableEq, Inhabited

/-- The settings of a project. -/
structure Config where
  /-- Where a module keeps its backend sources. -/
  backendRoot : String := "src/backend"
  fileExtensions : List String := ["php"]
  ignorePatterns : List String := ["vendor", "node_modules", ".git", "build"]
  /-- Directories whose classes are known but not analysed. -/
  classPaths : List Path := []
  knownClasses : List KnownClass := []
  /-- The number of workers, if it is fixed. -/
  jobs : Option Nat := none
  services : ServiceSettings := {}
  entities : EntitySettings := {}
  rules : RuleToggles := {}
deriving DecidableEq, Inhabited

/-- A rule is on unless its identifier is listed, or its short name in any case. -/
def RuleToggles.isEnabled (toggles : RuleToggles) (id : String) : Bool :=
  !toggles.disabled.any fun d => d == id || Text.sameFolded d (Rule.shortName id)

namespace Config

/-- The extension of the path is one of the configured ones. -/
def hasExtension (config : Config) (p : Path) : Bool :=
  match p.extension? with
  | some ext => config.fileExtensions.contains ext
  | none => false

/-- The parts of a path at which ignore patterns look: cut at slashes and backslashes. -/
def patternSegments (p : Path) : List String :=
  Text.split (fun c => c == '/' || c == '\\') p.text

/-- The path is not analysed: its extension is not configured, or a part of it is an ignore
pattern. -/
def shouldIgnore (config : Config) (p : Path) : Bool :=
  !config.hasExtension p
    || config.ignorePatterns.any fun pattern => (patternSegments p).contains pattern

end Config

end LayerLint
