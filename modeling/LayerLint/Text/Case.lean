import LayerLint.Text.Case.Tables

/-!
# Lower case

Two foldings are in use. Names of classes, methods and keywords are compared up to the case of ASCII
letters only. Rule groups are lowered in full: every cased letter moves to its counterpart, and a
capital sigma that closes a word takes its final form.
-/

set_option autoImplicit false

namespace LayerLint.Text

/-! ## ASCII -/

/-- ASCII capitals become small letters, all else stays. -/
def foldAscii (s : String) : String :=
  String.ofList (s.toList.map Char.toLower)

/-- Equal up to the case of ASCII letters. -/
def sameFolded (a b : String) : Bool :=
  foldAscii a == foldAscii b

theorem sameFolded_iff (a b : String) : sameFolded a b = true ↔ foldAscii a = foldAscii b := by
  simp [sameFolded]

/-! ## All letters -/

/-- The code point of the single lower-case counterpart outside ASCII, if a run has one. -/
def CaseRun.lowered? (run : CaseRun) (n : Nat) : Option Nat :=
  if run.first ≤ n ∧ n ≤ run.last ∧ (n - run.first) % run.step = 0 then
    some (n + run.shift).toNat
  else none

/-- The lower-case form of one character taken alone: one character, except for the capital I with
a dot, whose dot becomes a combining mark. -/
def lowerChar (c : Char) : List Char :=
  if c.toNat < 128 then [c.toLower]
  else if c.toNat = 0x130 then ['i', Char.ofNat 0x307]
  else [((lowerRuns.findSome? fun run => run.lowered? c.toNat).map Char.ofNat).getD c]

/-- The first character that is not skipped in a search for a cased letter is one. -/
def meetsCased (cs : List Char) : Bool :=
  ((cs.dropWhile caseIgnorableRanges.contains).head?.map casedRanges.contains).getD false

/-- Lowers a text, given the characters already passed, last one first. -/
def lowerFrom : List Char → List Char → List Char
  | _, [] => []
  | before, c :: after =>
    let lowered :=
      if c.toNat = 0x3A3 then
        [Char.ofNat (if meetsCased before && !meetsCased after then 0x3C2 else 0x3C3)]
      else lowerChar c
    lowered ++ lowerFrom (c :: before) after

/-- The text in lower case. -/
def lower (s : String) : String :=
  String.ofList (lowerFrom [] s.toList)

/-- The text with its first character in lower case. -/
def lowerFirst (s : String) : String :=
  match s.toList with
  | [] => ""
  | c :: cs => String.ofList (lowerChar c ++ cs)

end LayerLint.Text
