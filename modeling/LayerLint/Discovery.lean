import LayerLint.Config.Basic
import LayerLint.Discovery.IgnoreFile

/-!
# Finding the source files

The files below a target, in the order of their paths. Ignore files on the way hide entries, and what
remains is filtered by the configuration, which looks only at the part of a path below the target.
-/

set_option autoImplicit false

namespace LayerLint

namespace Discovery

mutual

/-- The files at or below an entry at a path, which the chain leads to. -/
def filesBelow (chain : IgnoreChain) (path : Path) : Entry → List Path
  | .file _ => [path]
  | .directory entries => filesAmong (chain.enter (.directory entries)) path entries

/-- The files at or below the entries of a directory that are not ignored. -/
def filesAmong (chain : IgnoreChain) (directory : Path) : List (String × Entry) → List Path
  | [] => []
  | (name, entry) :: rest =>
    let place := chain.below name
    (if place.ignores entry.isDirectory then []
      else filesBelow place (directory.join ⟨name⟩) entry)
      ++ filesAmong chain directory rest

end

/-- The names that lead from the root of a file system to a path: a step up takes the last name
back. -/
def rootedNames (fs : FileSystem) (path : Path) : List String :=
  (fs.namedSegments path).foldl (fun names s => if s == ".." then names.dropLast else names ++ [s])
    []

/-- The files below a target, in the order of the directories. -/
def walk (fs : FileSystem) (target : Path) : List Path :=
  match fs.find target with
  | .ok entry => filesBelow (IgnoreChain.along [] fs.root (rootedNames fs target)) target entry
  | .error _ => []

end Discovery

/-- The source files of a target, sorted. A target that is a file needs a configured extension only;
below a directory the configuration decides by the path relative to it. -/
def discover (fs : FileSystem) (config : Config) (target : Path) : List Path :=
  if fs.isFile target then if config.hasExtension target then [target] else []
  else
    ((Discovery.walk fs target).filter fun path =>
      !config.shouldIgnore (path.relativeTo target)).mergeSort Path.le

/-- The source files of every configured class path that exists, taken from a project root. -/
def discoverClassPaths (fs : FileSystem) (config : Config) (root : Path) : List Path :=
  (config.classPaths.map root.join).flatMap fun directory =>
    if fs.exists? directory then discover fs config directory else []

end LayerLint
