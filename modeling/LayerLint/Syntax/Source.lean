/-!
# Source texts

Places in a source are byte offsets. Lines end at line feeds only, and columns count bytes.
-/

set_option autoImplicit false

namespace LayerLint.Syntax

/-- The text of a source file. -/
structure Source where
  text : String
deriving DecidableEq, Inhabited

/-- A line and a column, both counted from one. -/
structure Position where
  line : Nat
  column : Nat
deriving DecidableEq, Inhabited

namespace Source

/-- The bytes of the text. -/
def bytes (s : Source) : ByteArray :=
  s.text.toUTF8

/-- The text between two offsets; empty if they cut a character. -/
def slice (s : Source) (start stop : Nat) : String :=
  (String.fromUTF8? (s.bytes.extract start stop)).getD ""

/-- The bytes before an offset, last one first. -/
def bytesBefore (s : Source) (offset : Nat) : List UInt8 :=
  (s.bytes.extract 0 offset).toList.reverse

/-- The line and column of an offset. -/
def position (s : Source) (offset : Nat) : Position :=
  let before := s.bytesBefore offset
  { line := before.count 10 + 1, column := (before.takeWhile (· != 10)).length + 1 }

end Source

end LayerLint.Syntax
