import LayerLint.Text.Cut

/-!
# Terminal colours

A painted text stands between a control sequence that sets its style and one that resets it. A reset
inside the text is followed by the style again. Without colours a text is left as it is.
-/

set_option autoImplicit false

namespace LayerLint

namespace Report

/-- A style, named by what it does to a text. -/
inductive Paint where
  | bold
  | dimmed
  | red
  | green
  | yellow
  | blue
  | cyan
  | boldRed
  | boldCyan
deriving DecidableEq, Inhabited

namespace Paint

/-- The parameters of the control sequence. -/
def codes : Paint → String
  | bold => "1"
  | dimmed => "2"
  | red => "31"
  | green => "32"
  | yellow => "33"
  | blue => "34"
  | cyan => "36"
  | boldRed => "1;31"
  | boldCyan => "1;36"

/-- The control sequence with some parameters. -/
def sequence (parameters : String) : String :=
  "\x1b[" ++ parameters ++ "m"

/-- The control sequence that resets the style. -/
def reset : String :=
  sequence "0"

/-- The text with `insert` after every occurrence of `mark`. At most `fuel` occurrences count. -/
def insertAfter (mark insert : String) : (fuel : Nat) → String → String
  | 0, text => text
  | fuel + 1, text =>
    match Text.cutFirst? mark text with
    | some (before, rest) => before ++ mark ++ insert ++ insertAfter mark insert fuel rest
    | none => text

/-- The text in a style, if there are colours. -/
def apply (paint : Paint) (colors : Bool) (text : String) : String :=
  if colors then
    let style := sequence paint.codes
    style ++ insertAfter reset style text.length text ++ reset
  else text

end Paint

end Report

end LayerLint
