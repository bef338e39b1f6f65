import LayerLint.Discovery.Glob
import LayerLint.FileSystem

/-!
# Ignore files

A line of an ignore file is a rule about paths below the directory of the file. The last rule that
speaks about a path decides; a rule with an exclamation mark takes a path back in.
-/

set_option autoImplicit false

namespace LayerLint

/-- One rule of an ignore file. -/
structure IgnoreRule where
  glob : Glob
  /-- The rule takes paths back in. -/
  restores : Bool := false
  directoriesOnly : Bool := false
deriving DecidableEq, Inhabited

namespace IgnoreRule

/-- The text without its last character, if that is `c`. -/
def dropLast? (c : Char) (s : String) : Option String :=
  match s.toList.reverse with
  | last :: before => if last == c then some (String.ofList before.reverse) else none
  | [] => none

/-- The pattern that a rule stands for. Without an inner slash a rule holds at every depth; with two
stars at the end it holds for what is below a directory, not for the directory. -/
def pattern (anchored : Bool) (s : String) : String :=
  let placed :=
    if anchored || s.toList.contains '/' || s == "**" then s
    else "**/" ++ s
  if "/**".toList.isSuffixOf placed.toList then placed ++ "/*" else placed

/-- The rule with the body of a line, which has lost its exclamation mark. -/
def ofBody? (restores anchored : Bool) (body : String) : Option IgnoreRule :=
  let (directoriesOnly, body) :=
    match dropLast? '/' body with
    | some shorter => (true, (dropLast? '\\' shorter).getD shorter)
    | none => (false, body)
  (Glob.ofString? (pattern anchored body)).map fun glob => { glob, restores, directoriesOnly }

/-- The rule of a line. A comment and a blank line have none, nor does a line that cannot be read. -/
def ofLine? (line : String) : Option IgnoreRule :=
  if Text.startsWith "#" line then none
  else
    let line :=
      if "\\ ".toList.isSuffixOf line.toList then line else Text.trimEnd Text.isBlank line
    if line == "" then none
    else if Text.startsWith "\\!" line || Text.startsWith "\\#" line then
      ofBody? false false (String.ofList (line.toList.drop 1))
    else
      let (restores, line) :=
        match Text.dropLead? "!" line with
        | some rest => (true, rest)
        | none => (false, line)
      match Text.dropLead? "/" line with
      | some rest => ofBody? restores true rest
      | none => ofBody? restores false line

/-- The rules of a file. A byte order mark at its start does not count. -/
def ofText (text : String) : List IgnoreRule :=
  (Text.split (· == '\n') (Text.trimStart (· == '\ufeff') text)).filterMap ofLine?

/-- The rule speaks about a path below the directory of its file. -/
def appliesTo (rule : IgnoreRule) (path : String) (isDirectory : Bool) : Bool :=
  (!rule.directoriesOnly || isDirectory) && rule.glob.matchesText path

/-- Whether rules ignore a path: what the last one that speaks about it says. -/
def verdict? (rules : List IgnoreRule) (path : String) (isDirectory : Bool) : Option Bool :=
  (rules.reverse.find? fun rule => rule.appliesTo path isDirectory).map fun rule => !rule.restores

end IgnoreRule

/-! ## Directories with ignore files -/

/-- The rules that hold below a directory. -/
structure IgnoreScope where
  /-- The rules of its ignore file. -/
  plain : List IgnoreRule := []
  /-- The rules of its version control ignore file. -/
  tracked : List IgnoreRule := []
  /-- The rules that its repository keeps apart. -/
  excluded : List IgnoreRule := []
  /-- The directory is the root of a repository. -/
  isRepository : Bool := false
deriving Inhabited

/-- The rules of the file at the end of the segments, none if there is no text. -/
def IgnoreScope.rulesAt (entry : Entry) (segments : List String) : List IgnoreRule :=
  match entry.follow [] segments with
  | .ok (.file (.text s)) => IgnoreRule.ofText s
  | _ => []

/-- The rules that a directory holds. -/
def IgnoreScope.ofEntry (entry : Entry) : IgnoreScope where
  plain := rulesAt entry [".ignore"]
  tracked := rulesAt entry [".gitignore"]
  excluded := rulesAt entry [".git", "info", "exclude"]
  isRepository := (entry.follow [] [".git"]).isOk

/-- Directories, innermost first, each with the names that lead from it to the place in question. -/
abbrev IgnoreChain := List (IgnoreScope × List String)

namespace IgnoreChain

/-- The chain one name further down. -/
def below (chain : IgnoreChain) (name : String) : IgnoreChain :=
  chain.map fun link => (link.1, link.2 ++ [name])

/-- The chain inside a directory at its place. -/
def enter (chain : IgnoreChain) (entry : Entry) : IgnoreChain :=
  (IgnoreScope.ofEntry entry, []) :: chain

/-- The part of a chain up to the innermost repository; nothing outside of repositories. -/
def withinRepository : IgnoreChain → IgnoreChain
  | [] => []
  | link :: outer =>
    if link.1.isRepository then [link]
    else
      match withinRepository outer with
      | [] => []
      | inside => link :: inside

/-- What the innermost directory that speaks about the place says. -/
def verdict? (chain : IgnoreChain) (rules : IgnoreScope → List IgnoreRule) (isDirectory : Bool) :
    Option Bool :=
  chain.findSome? fun link =>
    IgnoreRule.verdict? (rules link.1) ("/".intercalate link.2) isDirectory

/-- The place is ignored. Plain ignore files come before those of a repository. -/
def ignores (chain : IgnoreChain) (isDirectory : Bool) : Bool :=
  let repository := chain.withinRepository
  ((chain.verdict? IgnoreScope.plain isDirectory).or
    ((repository.verdict? IgnoreScope.tracked isDirectory).or
      (repository.verdict? IgnoreScope.excluded isDirectory))).getD false

/-- The chain at the end of some names, from the root of a tree on. -/
def along : IgnoreChain → Entry → List String → IgnoreChain
  | chain, _, [] => chain
  | chain, .file _, _ :: _ => chain
  | chain, .directory entries, name :: rest =>
    match entries.lookup name with
    | some entry => along ((chain.enter (.directory entries)).below name) entry rest
    | none => chain

end IgnoreChain

end LayerLint
