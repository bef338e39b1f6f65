import LayerLint.Config.Decode
import LayerLint.Data.Toml.Reader
import LayerLint.FileSystem

/-!
# Configuration files

A project is marked by a configuration file in its root directory. The nearest one on the way up
from a place belongs to it; a project without one has the default settings.
-/

set_option autoImplicit false

namespace LayerLint

/-- The name of configuration files. -/
def Config.fileName : String :=
  ".espolint.toml"

/-- Why a configuration could not be loaded. -/
inductive ConfigError where
  | read (path : Path) (cause : ReadError)
  | parse (path : Path)
deriving DecidableEq, Inhabited

namespace ConfigError

/-- What went wrong below the level of configurations. -/
def cause : ConfigError → String
  | read _ cause => cause.message
  | parse _ => "TOML parse error"

/-- The message of the failure, with its cause. -/
def message : ConfigError → String
  | e@(read path _) => "could not read " ++ path.text ++ ": " ++ e.cause
  | e@(parse path) => "invalid configuration in " ++ path.text ++ ": " ++ e.cause

end ConfigError

namespace Config

/-- A configuration written as TOML. -/
def ofToml? (text : String) : Option Config :=
  (Data.Toml.parse? text).bind ofValue?

/-- Loads the configuration file at a path. -/
def load (fs : FileSystem) (path : Path) : Except ConfigError Config :=
  match fs.readText path with
  | .error cause => .error (.read path cause)
  | .ok text =>
    match ofToml? text with
    | some config => .ok config
    | none => .error (.parse path)

/-- Loads the configuration file of a project root, or takes the defaults if there is none. -/
def loadOrDefault (fs : FileSystem) (root : Path) : Except ConfigError Config :=
  let path := root.join ⟨fileName⟩
  if fs.exists? path then load fs path else .ok {}

/-- The nearest directory, from a path upwards, that holds a configuration file. -/
def projectRoot? (fs : FileSystem) (start : Path) : Option Path :=
  start.ancestors.find? fun dir => fs.isFile (dir.join ⟨fileName⟩)

end Config

end LayerLint
