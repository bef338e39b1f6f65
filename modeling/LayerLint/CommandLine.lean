import LayerLint.CommandLine.Arguments
import LayerLint.CommandLine.Check
import LayerLint.CommandLine.Rules

/-!
# Running commands
-/

set_option autoImplicit false

namespace LayerLint

/-- Runs a command on a file system. -/
def Command.run (fs : FileSystem) (colors : Bool) : Command → Outcome
  | check options => Check.run fs colors options
  | rules config => RuleListing.run fs colors config

end LayerLint
