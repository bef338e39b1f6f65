import LayerLint.CommandLine.Basic
import LayerLint.Report.RuleList

/-!
# The rules command

Lists the rules under a configuration file, or under the defaults if there is none.
-/

set_option autoImplicit false

namespace LayerLint

namespace RuleListing

/-- The configuration file to look at: the given one, or that of the project around the working
directory. -/
def configPath (fs : FileSystem) (explicit : Option Path) : Path :=
  let root := (Config.projectRoot? fs fs.currentPath).getD fs.currentPath
  explicit.getD (root.join ⟨Config.fileName⟩)

/-- The configuration file, if it is there, and the configuration that holds. -/
def settle (fs : FileSystem) (explicit : Option Path) :
    Except ConfigError (Option Path × Config) :=
  let path := configPath fs explicit
  if fs.isFile path then (Config.load fs path).map fun config => (some path, config)
  else .ok (none, {})

/-- Runs the listing. -/
def run (fs : FileSystem) (colors : Bool) (explicit : Option Path) : Outcome :=
  match settle fs explicit with
  | .error e =>
    { exitCode := Outcome.misuse
      stderr := Report.Plain.failureLine colors e.message ++ "\n" }
  | .ok (found, config) =>
    { exitCode := Outcome.clean, stdout := Report.RuleList.render colors found config }

end RuleListing

end LayerLint
