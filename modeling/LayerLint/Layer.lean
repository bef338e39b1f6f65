import LayerLint.Path

/-!
# Architectural layers

A module keeps its backend sources below one directory, the backend root, and every layer of the
architecture in a directory of its own directly below it. The layer of a file follows from its path
alone: the first place where the path runs through the backend root decides.
-/

set_option autoImplicit false

namespace LayerLint

/-- Where a file of the backend stands. -/
inductive Layer where
  | controllers
  | entities
  | hooks
  | services
  | other
deriving DecidableEq, Inhabited

namespace Layer

/-- The layers that have a directory of their own. -/
def all : List Layer :=
  [controllers, entities, hooks, services]

/-- The directory of a layer, empty for files outside all layers. -/
def directory : Layer → String
  | controllers => "Controllers"
  | entities => "Entities"
  | hooks => "Hooks"
  | services => "Services"
  | other => ""

/-- The layer whose directory has this name. -/
def ofDirectory (name : String) : Layer :=
  (all.find? fun layer => layer.directory == name).getD other

end Layer

/-! ## The backend root inside a path -/

/-- A path cut at the backend root: the module that holds it and what lies below it. -/
structure BackendSplit where
  moduleRoot : String
  rest : String
deriving DecidableEq, Inhabited

/-- The configured root without slashes at its ends. -/
def trimRoot (root : String) : String :=
  Text.trimBoth (· == '/') root

/-- Cuts a path at the first place where it runs through the backend root. The module root is empty
for a path that starts with the backend root. -/
def splitBackend? (path root : String) : Option BackendSplit :=
  match Text.dropLead? (trimRoot root ++ "/") path with
  | some rest => some ⟨"", rest⟩
  | none =>
    (Text.cutFirst? ("/" ++ trimRoot root ++ "/") path).map fun cut => ⟨cut.1, cut.2⟩

/-- The layer of what lies below a backend root. A file directly in the root is in no layer. -/
def Layer.ofRest (rest : String) : Layer :=
  match Text.split (· == '/') rest with
  | first :: _ :: _ => Layer.ofDirectory first
  | _ => .other

/-- The layer of a path, none if it does not run through the backend root. -/
def Layer.classify? (path root : String) : Option Layer :=
  (splitBackend? path root).map fun cut => Layer.ofRest cut.rest

/-- The directory with the hooks of an entity type, in the module that a path belongs to. -/
def hooksDirectory? (path root entityType : String) : Option Path :=
  (splitBackend? path root).map fun cut =>
    let backend : Path :=
      if cut.moduleRoot == "" then ⟨trimRoot root⟩
      else Path.join ⟨cut.moduleRoot⟩ ⟨trimRoot root⟩
    (backend.join ⟨Layer.hooks.directory⟩).join ⟨entityType⟩

end LayerLint
