import LayerLint.Text.Blank

/-!
# Cutting texts

Splitting a text into pieces, removing characters from its ends, and finding one text inside
another. Each operation is a plain recursion on the characters; the version on strings only changes
the representation.
-/

set_option autoImplicit false

namespace LayerLint.Text

/-! ## Pieces -/

/-- The runs between the characters that satisfy `p`, in order. A text without such a character is
its only piece, and two neighbouring ones have an empty piece between them. -/
def pieces (p : Char → Bool) : List Char → List (List Char)
  | [] => [[]]
  | c :: cs =>
    if p c then [] :: pieces p cs
    else
      match pieces p cs with
      | [] => [[c]]
      | piece :: rest => (c :: piece) :: rest

theorem pieces_ne_nil (p : Char → Bool) (cs : List Char) : pieces p cs ≠ [] := by
  cases cs with
  | nil => simp [pieces]
  | cons c cs =>
    by_cases h : p c
    · simp [pieces, h]
    · simp only [pieces, h]
      cases pieces p cs <;> simp

/-- The pieces of a text between the characters that satisfy `p`. -/
def split (p : Char → Bool) (s : String) : List String :=
  (pieces p s.toList).map String.ofList

/-- The piece after the last character that satisfies `p`, the whole text if there is none. -/
def afterLast (p : Char → Bool) (s : String) : String :=
  (split p s).getLast?.getD s

/-! ## Ends -/

/-- Without the trailing characters that satisfy `p`. -/
def dropEndWhile (p : Char → Bool) (cs : List Char) : List Char :=
  (cs.reverse.dropWhile p).reverse

/-- Without the leading characters that satisfy `p`. -/
def trimStart (p : Char → Bool) (s : String) : String :=
  String.ofList (s.toList.dropWhile p)

/-- Without the trailing characters that satisfy `p`. -/
def trimEnd (p : Char → Bool) (s : String) : String :=
  String.ofList (dropEndWhile p s.toList)

/-- Without the leading and trailing characters that satisfy `p`. -/
def trimBoth (p : Char → Bool) (s : String) : String :=
  trimEnd p (trimStart p s)

/-- Without surrounding white space. -/
def trim (s : String) : String :=
  trimBoth isBlank s

/-! ## One text inside another -/

/-- What follows `lead`, if the text starts with it. -/
def dropLead? (lead s : String) : Option String :=
  (lead.toList.isPrefixOf? s.toList).map String.ofList

/-- The text starts with `lead`. -/
def startsWith (lead s : String) : Bool :=
  lead.toList.isPrefixOf s.toList

/-- The parts before and after the first occurrence of `needle`. -/
def cutAtFirst? (needle : List Char) : List Char → Option (List Char × List Char)
  | [] => if needle.isEmpty then some ([], []) else none
  | c :: cs =>
    match needle.isPrefixOf? (c :: cs) with
    | some rest => some ([], rest)
    | none => (cutAtFirst? needle cs).map fun cut => (c :: cut.1, cut.2)

/-- The parts before and after the first occurrence of `needle` in a string. -/
def cutFirst? (needle s : String) : Option (String × String) :=
  (cutAtFirst? needle.toList s.toList).map fun cut => (String.ofList cut.1, String.ofList cut.2)

/-- The parts before and after the last occurrence of a character. -/
def cutLastChar? (c : Char) (s : String) : Option (String × String) :=
  (cutAtFirst? [c] s.toList.reverse).map fun cut =>
    (String.ofList cut.2.reverse, String.ofList cut.1.reverse)

/-- `needle` occurs in the text. -/
def occursIn (needle s : String) : Bool :=
  (cutFirst? needle s).isSome

/-- Every occurrence of `a` becomes `b`. -/
def replaceChar (a b : Char) (s : String) : String :=
  String.ofList (s.toList.map fun c => if c == a then b else c)

end LayerLint.Text
