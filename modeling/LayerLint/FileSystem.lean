import LayerLint.Path

/-!
# File systems as values

An analysis reads a directory tree that is given as a value: names, directories, and files whose
content is either text or not. A path is followed segment by segment from the root or from the
working directory, the way an operating system does it: every segment but the last has to name a
directory.
-/

set_option autoImplicit false

namespace LayerLint

/-- What a file holds: a text, or bytes that are no valid text. -/
inductive Content where
  | text (s : String)
  | binary
deriving Inhabited

/-- A file or a directory with its entries in the order in which it lists them. -/
inductive Entry where
  | file (content : Content)
  | directory (entries : List (String × Entry))
deriving Inhabited

/-- Why a file could not be read as text. -/
inductive ReadError where
  | notFound
  | notDirectory
  | isDirectory
  | notText
deriving DecidableEq, Inhabited

/-- The system's text for the failure. -/
def ReadError.message : ReadError → String
  | notFound => "No such file or directory (os error 2)"
  | notDirectory => "Not a directory (os error 20)"
  | isDirectory => "Is a directory (os error 21)"
  | notText => "stream did not contain valid UTF-8"

namespace Entry

/-- Follows segments from an entry, whose enclosing directories are given innermost first. -/
def follow : List Entry → Entry → List String → Except ReadError Entry
  | _, entry, [] => .ok entry
  | _, .file _, _ :: _ => .error .notDirectory
  | outer, .directory entries, s :: rest =>
    if Path.isVoid s then follow outer (.directory entries) rest
    else if s == ".." then
      match outer with
      | [] => follow [] (.directory entries) rest
      | parent :: further => follow further parent rest
    else
      match entries.lookup s with
      | none => .error .notFound
      | some entry => follow (.directory entries :: outer) entry rest

/-- The entries with the one called `name` replaced, or added at the end. -/
def putNamed (name : String) (entry : Entry) : List (String × Entry) → List (String × Entry)
  | [] => [(name, entry)]
  | (n, e) :: rest => if n == name then (n, entry) :: rest else (n, e) :: putNamed name entry rest

/-- Puts a new entry at the end of the segments, making the directories on the way. -/
def put : Entry → List String → Entry → Entry
  | _, [], new => new
  | entry, s :: rest, new =>
    let entries :=
      match entry with
      | .directory entries => entries
      | .file _ => []
    .directory (putNamed s (put ((entries.lookup s).getD (.directory [])) rest new) entries)

/-- Removes the entry at the end of the segments, if it is there. -/
def erase : Entry → List String → Entry
  | .file content, _ => .file content
  | .directory entries, [] => .directory entries
  | .directory entries, [s] => .directory (entries.filter (·.1 != s))
  | .directory entries, s :: rest =>
    match entries.lookup s with
    | none => .directory entries
    | some entry => .directory (putNamed s (erase entry rest) entries)

/-- The entry is a directory. -/
def isDirectory : Entry → Bool
  | .directory _ => true
  | .file _ => false

/-- The number of entries in the tree, itself included. -/
def size : Entry → Nat
  | .file _ => 1
  | .directory entries => 1 + sizes entries
where
  /-- The number of entries below a directory. -/
  sizes : List (String × Entry) → Nat
    | [] => 0
    | (_, entry) :: rest => entry.size + sizes rest

end Entry

/-- A directory tree with a working directory, given by its segments from the root. -/
structure FileSystem where
  root : Entry
  workingDirectory : List String := []
deriving Inhabited

namespace FileSystem

/-- The segments that lead from the root to where a path points. -/
def segments (fs : FileSystem) (p : Path) : List String :=
  if p.isAbsolute then p.segments else fs.workingDirectory ++ p.segments

/-- The entry at a path. The empty path names nothing. -/
def find (fs : FileSystem) (p : Path) : Except ReadError Entry :=
  if p.text == "" then .error .notFound else fs.root.follow [] (fs.segments p)

/-- Something is there. -/
def exists? (fs : FileSystem) (p : Path) : Bool :=
  (fs.find p).isOk

/-- A file is there. -/
def isFile (fs : FileSystem) (p : Path) : Bool :=
  match fs.find p with
  | .ok (.file _) => true
  | _ => false

/-- A directory is there. -/
def isDirectory (fs : FileSystem) (p : Path) : Bool :=
  match fs.find p with
  | .ok (.directory _) => true
  | _ => false

/-- The text of the file at a path. -/
def readText (fs : FileSystem) (p : Path) : Except ReadError String :=
  match fs.find p with
  | .error e => .error e
  | .ok (.directory _) => .error .isDirectory
  | .ok (.file (.text s)) => .ok s
  | .ok (.file .binary) => .error .notText

/-- The entries of the directory at a path, none if there is no directory. -/
def list (fs : FileSystem) (p : Path) : List (String × Entry) :=
  match fs.find p with
  | .ok (.directory entries) => entries
  | _ => []

/-- The segments that name something on the way to a path. -/
def namedSegments (fs : FileSystem) (p : Path) : List String :=
  (fs.segments p).filter fun s => !Path.isVoid s

/-- The file system with a file or a directory put at a path. -/
def write (fs : FileSystem) (p : Path) (entry : Entry) : FileSystem :=
  { fs with root := fs.root.put (fs.namedSegments p) entry }

/-- The file system without what is at a path. -/
def remove (fs : FileSystem) (p : Path) : FileSystem :=
  { fs with root := fs.root.erase (fs.namedSegments p) }

/-- The working directory as an absolute path. -/
def currentPath (fs : FileSystem) : Path :=
  ⟨"/" ++ "/".intercalate fs.workingDirectory⟩

end FileSystem

end LayerLint
