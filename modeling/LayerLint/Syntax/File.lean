import LayerLint.Syntax.Grammar
import LayerLint.Syntax.Names
import LayerLint.FileSystem

/-!
# Source files

A source file is a path, a text, the tree of the text, and the names that hold in it.
-/

set_option autoImplicit false

namespace LayerLint

/-- A source file that has been read. -/
structure SourceFile where
  path : Path
  source : Syntax.Source
  root : Syntax.Node
  hasErrors : Bool
  names : Syntax.Names
deriving Inhabited

namespace SourceFile

/-- The file at a path with a text. Of a text with errors only what stands before them is read, so
the classes, imports and calls further down are not seen. -/
def parse (path : Path) (text : String) : SourceFile :=
  let parsed := Syntax.parse text
  { path, source := ⟨text⟩, root := parsed.root, hasErrors := parsed.hasErrors,
    names := .ofTree ⟨text⟩ parsed.root }

/-- Why a source file could not be read. -/
def readFailure (path : Path) (cause : ReadError) : String :=
  "could not read " ++ path.text ++ ": " ++ cause.message

/-- Reads the file at a path. -/
def read (fs : FileSystem) (path : Path) : Except ReadError SourceFile :=
  (fs.readText path).map (parse path)

/-- The path as reports show it. -/
def displayPath (file : SourceFile) : String :=
  file.path.display

/-- The text of a node. -/
def text (file : SourceFile) (n : Syntax.Node) : String :=
  n.text file.source

end SourceFile

end LayerLint
