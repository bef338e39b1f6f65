import LayerLint.Text.Ranges

/-!
# Blank characters

The 25 characters with the white-space property. They are what trimming removes and what separates
the words of a use clause or a type tag.
-/

set_option autoImplicit false

namespace LayerLint.Text

/-- The white-space characters, in increasing order. -/
def blankRanges : Ranges :=
  [(0x9, 0xD), (0x20, 0x20), (0x85, 0x85), (0xA0, 0xA0), (0x1680, 0x1680), (0x2000, 0x200A),
    (0x2028, 0x2029), (0x202F, 0x202F), (0x205F, 0x205F), (0x3000, 0x3000)]

/-- A white-space character. -/
def isBlank (c : Char) : Bool :=
  blankRanges.contains c

end LayerLint.Text
