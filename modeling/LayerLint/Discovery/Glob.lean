/-!
# Glob patterns

A pattern is a list of steps. A step eats a beginning of the text and leaves a rest; where it has a
choice it leaves several. A text matches if some choice eats all of it. Texts are read as bytes, so
a question mark stands for one byte.

* `*` stands for any run without a slash.
* Two stars that fill the space between slashes stand for any number of directories.
* `[a-z]` and `[!a-z]` stand for one byte in, or not in, the ranges.
* A backslash takes the next character for itself.
-/

set_option autoImplicit false

namespace LayerLint

/-- One step of a pattern. -/
inductive GlobStep where
  | byte (b : UInt8)
  | anyByte
  | run
  | oneOf (negated : Bool) (ranges : List (UInt8 × UInt8))
  /-- Any number of directories at the start. -/
  | directoriesFirst
  /-- Any number of directories between two slashes. -/
  | directoriesBetween
  /-- Everything below a directory. -/
  | everythingBelow
deriving DecidableEq, Inhabited

namespace GlobStep

/-- The byte between directories. -/
def slash : UInt8 := 47

/-- All rests of a text, itself and the empty one included. -/
def suffixes : List UInt8 → List (List UInt8)
  | [] => [[]]
  | b :: rest => (b :: rest) :: suffixes rest

/-- The rests that start within or right after the leading run without a slash. -/
def runRests : List UInt8 → List (List UInt8)
  | [] => [[]]
  | b :: rest => (b :: rest) :: (if b == slash then [] else runRests rest)

/-- The rests that follow a slash. -/
def slashRests : List UInt8 → List (List UInt8)
  | [] => []
  | b :: rest => if b == slash then rest :: slashRests rest else slashRests rest

/-- The rests that the step may leave of a text. -/
def rests : GlobStep → List UInt8 → List (List UInt8)
  | run, text => runRests text
  | directoriesFirst, text => text :: slashRests text
  | _, [] => []
  | byte b, c :: rest => if b == c then [rest] else []
  | anyByte, c :: rest => if c == slash then [] else [rest]
  | oneOf negated ranges, c :: rest =>
    if ranges.any (fun r => r.1 ≤ c && c ≤ r.2) != negated then [rest] else []
  | directoriesBetween, c :: rest => if c == slash then rest :: slashRests rest else []
  | everythingBelow, c :: rest => if c == slash then suffixes rest else []

end GlobStep

/-- A pattern. -/
structure Glob where
  steps : List GlobStep
deriving DecidableEq, Inhabited

namespace Glob

/-! ## Matching -/

/-- The steps can eat the whole text. -/
def eats : List GlobStep → List UInt8 → Bool
  | [], text => text.isEmpty
  | step :: steps, text => (step.rests text).any (eats steps)

/-- The text matches the pattern. Two stars alone match everything. -/
def matchesText (glob : Glob) (text : String) : Bool :=
  glob.steps == [.directoriesFirst] || eats glob.steps text.toUTF8.toList

/-! ## Reading patterns -/

/-- The steps for a character that stands for itself. -/
def literal (c : Char) : List GlobStep :=
  (String.utf8EncodeChar c).map .byte

/-- The byte ranges of a range of characters. -/
def byteRanges (low high : Char) : List (UInt8 × UInt8) :=
  let single (b : UInt8) := (b, b)
  let lows := String.utf8EncodeChar low
  if low == high then lows.map single
  else
    match lows.reverse, String.utf8EncodeChar high with
    | last :: before, first :: after =>
      before.reverse.map single ++ [(last, first)] ++ after.map single
    | _, _ => []

/-- The ranges up to the closing bracket of a class, and what follows it. A closing bracket or a
hyphen in the first place stands for itself, and so does a hyphen in the last one. -/
def classRanges? : (first : Bool) → List Char → Option (List (Char × Char) × List Char)
  | _, [] => none
  | first, ']' :: rest =>
    if first then (classRanges? false rest).map fun found => ((']', ']') :: found.1, found.2)
    else some ([], rest)
  | _, low :: '-' :: ']' :: rest => some ([(low, low), ('-', '-')], rest)
  | _, low :: '-' :: high :: rest =>
    (classRanges? false rest).map fun found => ((low, high) :: found.1, found.2)
  | _, c :: rest => (classRanges? false rest).map fun found => ((c, c) :: found.1, found.2)

/-- A class after its opening bracket: whether it is negated, its ranges, and what follows it. -/
def readClass? (cs : List Char) : Option (Bool × List (Char × Char) × List Char) :=
  match cs with
  | '!' :: rest => (classRanges? true rest).map (true, ·)
  | '^' :: rest => (classRanges? true rest).map (true, ·)
  | _ => (classRanges? true cs).map (false, ·)

/-- The steps read so far, last one first, with the slash before two stars taken into the step that
the stars stand for. Neighbouring pairs of stars count once. -/
def absorbSlash (step : GlobStep) : List GlobStep → List GlobStep
  | .directoriesFirst :: before => .directoriesFirst :: before
  | .everythingBelow :: before => .everythingBelow :: before
  | _ :: before => step :: before
  | [] => [step]

/-- Reads the rest of a pattern. `read` are the steps so far, last one first; `afterSlash` says that
the last character was a slash. No more than `fuel` characters are read. A bracket that is not closed
stands for itself; a backslash at the end and a descending range make the pattern unreadable. -/
def readSteps : (fuel : Nat) → (read : List GlobStep) → (afterSlash : Bool) → List Char →
    Option (List GlobStep)
  | _, read, _, [] => some read.reverse
  | 0, _, _, _ :: _ => none
  | fuel + 1, read, afterSlash, '*' :: '*' :: rest =>
    let twoRuns := readSteps fuel (.run :: .run :: read) false rest
    if read.isEmpty then
      match rest with
      | [] => some [.directoriesFirst]
      | '/' :: rest => readSteps fuel [.directoriesFirst] true rest
      | _ => twoRuns
    else if afterSlash then
      match rest with
      | [] => some (absorbSlash .everythingBelow read).reverse
      | '/' :: rest => readSteps fuel (absorbSlash .directoriesBetween read) true rest
      | _ => twoRuns
    else twoRuns
  | fuel + 1, read, _, '*' :: rest => readSteps fuel (.run :: read) false rest
  | fuel + 1, read, _, '?' :: rest => readSteps fuel (.anyByte :: read) false rest
  | fuel + 1, read, _, '[' :: rest =>
    match readClass? rest with
    | some (negated, ranges, rest) =>
      if ranges.any fun r => r.2 < r.1 then none
      else
        let step := .oneOf negated (ranges.flatMap fun r => byteRanges r.1 r.2)
        readSteps fuel (step :: read) false rest
    | none => readSteps fuel ((literal '[').reverse ++ read) false rest
  | _ + 1, _, _, ['\\'] => none
  | fuel + 1, read, _, '\\' :: c :: rest =>
    readSteps fuel ((literal c).reverse ++ read) (c == '/') rest
  | fuel + 1, read, _, c :: rest =>
    readSteps fuel ((literal c).reverse ++ read) (c == '/') rest

/-- Reads a pattern. -/
def ofString? (s : String) : Option Glob :=
  (readSteps s.length [] false s.toList).map Glob.mk

end Glob

end LayerLint
