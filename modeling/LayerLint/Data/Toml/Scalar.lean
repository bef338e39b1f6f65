import LayerLint.Data.Value
import LayerLint.Data.Json.Reader

/-!
# TOML scalars

Strings in their four spellings, integers in four bases, other numbers, truth values and dates. Each
reader takes its token off the front of the characters and returns the rest, or fails.
-/

set_option autoImplicit false

namespace LayerLint.Data.Toml

/-! ## Characters -/

/-- A space or a tab. -/
def isSpace (c : Char) : Bool :=
  c == ' ' || c == '\t'

/-- Without leading spaces and tabs. -/
def skipSpace (cs : List Char) : List Char :=
  cs.dropWhile isSpace

/-- What follows a line break at the front. -/
def newline? : List Char → Option (List Char)
  | '\n' :: rest => some rest
  | '\r' :: '\n' :: rest => some rest
  | _ => none

/-- A character that may stand in a comment. -/
def isCommentChar (c : Char) : Bool :=
  c == '\t' || (0x20 ≤ c.toNat && c.toNat != 0x7F)

/-- Without the comment at the front, if there is one. -/
def skipComment : List Char → List Char
  | '#' :: rest => rest.dropWhile isCommentChar
  | cs => cs

/-- A character of a key without quotes. -/
def isBareKeyChar (c : Char) : Bool :=
  c.isAlphanum || c == '_' || c == '-'

/-! ## Strings -/

/-- A character that may stand for itself in a string on one line. -/
def isPlain (c : Char) : Bool :=
  c == '\t' || (0x20 ≤ c.toNat && c.toNat != 0x7F)

/-- The character with a code point, if it is a scalar value. -/
def scalarChar? (n : Nat) : Option Char :=
  if h : n.isValidChar then some (Char.ofNatAux n h) else none

/-- The character after a backslash and one letter, with the rest. -/
def escape? : List Char → Option (Char × List Char)
  | 'b' :: rest => some ('\x08', rest)
  | 't' :: rest => some ('\t', rest)
  | 'n' :: rest => some ('\n', rest)
  | 'f' :: rest => some ('\x0c', rest)
  | 'r' :: rest => some ('\r', rest)
  | '"' :: rest => some ('"', rest)
  | '\\' :: rest => some ('\\', rest)
  | 'u' :: a :: b :: c :: d :: rest => do
    let n ← Json.hex4? a b c d
    let ch ← scalarChar? n
    return (ch, rest)
  | 'U' :: a :: b :: c :: d :: e :: f :: g :: h :: rest => do
    let m ← Json.hex4? a b c d
    let n ← Json.hex4? e f g h
    let ch ← scalarChar? (m * 0x10000 + n)
    return (ch, rest)
  | _ => none

/-- The rest of a basic string; `done` holds what was read, last character first. -/
def basicBody : Nat → List Char → List Char → Option (String × List Char)
  | 0, _, _ => none
  | _ + 1, _, [] => none
  | fuel + 1, done, c :: rest =>
    if c == '"' then some (String.ofList done.reverse, rest)
    else if c == '\\' then do
      let (ch, rest) ← escape? rest
      basicBody fuel (ch :: done) rest
    else if isPlain c then basicBody fuel (c :: done) rest
    else none

/-- The rest of a literal string. -/
def literalBody (done : List Char) : List Char → Option (String × List Char)
  | [] => none
  | c :: rest =>
    if c == '\'' then some (String.ofList done.reverse, rest)
    else if isPlain c then literalBody (c :: done) rest
    else none

/-- The end of a string over several lines: three quotes, and up to two more that belong to it. -/
def closing? (q : Char) (cs : List Char) : Option (List Char × List Char) :=
  let quotes := cs.takeWhile (· == q)
  if quotes.length < 3 then none
  else
    let inner := min (quotes.length - 3) 2
    some (List.replicate inner q, cs.drop (inner + 3))

/-- What follows a backslash at the end of a line: blanks, a line break and all blanks after it. -/
def continuation? (cs : List Char) : Option (List Char) := do
  let rest ← newline? (skipSpace cs)
  return rest.dropWhile fun c => isSpace c || c == '\n' || c == '\r'

/-- The rest of a basic string over several lines. -/
def multilineBasic : Nat → List Char → List Char → Option (String × List Char)
  | 0, _, _ => none
  | fuel + 1, done, cs =>
    match closing? '"' cs with
    | some (inner, rest) => some (String.ofList (inner ++ done).reverse, rest)
    | none =>
      match newline? cs with
      | some rest => multilineBasic fuel ('\n' :: done) rest
      | none =>
        match cs with
        | [] => none
        | '\\' :: rest =>
          match continuation? rest with
          | some rest => multilineBasic fuel done rest
          | none => do
            let (ch, rest) ← escape? rest
            multilineBasic fuel (ch :: done) rest
        | c :: rest => if isPlain c then multilineBasic fuel (c :: done) rest else none

/-- The rest of a literal string over several lines. -/
def multilineLiteral : Nat → List Char → List Char → Option (String × List Char)
  | 0, _, _ => none
  | fuel + 1, done, cs =>
    match closing? '\'' cs with
    | some (inner, rest) => some (String.ofList (inner ++ done).reverse, rest)
    | none =>
      match newline? cs with
      | some rest => multilineLiteral fuel ('\n' :: done) rest
      | none =>
        match cs with
        | [] => none
        | c :: rest => if isPlain c then multilineLiteral fuel (c :: done) rest else none

/-- Without one line break at the front. -/
def dropNewline (cs : List Char) : List Char :=
  (newline? cs).getD cs

/-- A string in any spelling. -/
def string? (cs : List Char) : Option (String × List Char) :=
  match cs with
  | '"' :: '"' :: '"' :: rest => multilineBasic (rest.length + 1) [] (dropNewline rest)
  | '\'' :: '\'' :: '\'' :: rest => multilineLiteral (rest.length + 1) [] (dropNewline rest)
  | '"' :: rest => basicBody (rest.length + 1) [] rest
  | '\'' :: rest => literalBody [] rest
  | _ => none

/-- A string on one line, as a key may be written. -/
def keyString? (cs : List Char) : Option (String × List Char) :=
  match cs with
  | '"' :: rest => basicBody (rest.length + 1) [] rest
  | '\'' :: rest => literalBody [] rest
  | _ => none

/-! ## Numbers, truth values and dates -/

/-- Digits in groups: single underscores may stand between two digits. -/
def grouped? (isDigit : Char → Bool) (cs : List Char) : Option (List Char) :=
  let ds := cs.filter (· != '_')
  let wellPlaced := (cs.zip (cs.drop 1)).all fun p => p.1 != '_' || p.2 != '_'
  if ds.isEmpty || cs.head? == some '_' || cs.getLast? == some '_' || !wellPlaced
      || !ds.all isDigit then none
  else some ds

/-- The number that digits write in a base. -/
def digitsIn (base : Nat) (ds : List Char) : Nat :=
  ds.foldl (fun n d => n * base + (Json.hexValue? d).getD 0) 0

/-- An integer without sign in a base given by its mark. -/
def based? : List Char → Option Nat
  | '0' :: 'x' :: ds => (grouped? (fun c => (Json.hexValue? c).isSome) ds).map (digitsIn 16)
  | '0' :: 'o' :: ds => (grouped? (fun c => '0' ≤ c && c ≤ '7') ds).map (digitsIn 8)
  | '0' :: 'b' :: ds => (grouped? (fun c => c == '0' || c == '1') ds).map (digitsIn 2)
  | _ => none

/-- Decimal digits without a superfluous zero in front. -/
def decimalDigits? (cs : List Char) : Option (List Char) := do
  let ds ← grouped? Char.isDigit cs
  if ds.head? == some '0' && ds.length != 1 then none else some ds

/-- The sign at the front of a number, and the rest. -/
def signed : List Char → Bool × List Char
  | '-' :: rest => (true, rest)
  | '+' :: rest => (false, rest)
  | cs => (false, cs)

/-- The bound of the integers with 64 bits: the least of them is its negative. -/
def integerBound : Int := 9223372036854775808

/-- A decimal integer, possibly with a sign. -/
def decimal? (cs : List Char) : Option Int :=
  let (negative, rest) := signed cs
  (decimalDigits? rest).map fun ds =>
    if negative then -(digitsIn 10 ds : Int) else digitsIn 10 ds

/-- An integer between the least and the greatest of 64 bits. -/
def integer? (cs : List Char) : Option Int :=
  (((based? cs).map Int.ofNat).or (decimal? cs)).filter fun n =>
    -integerBound ≤ n ∧ n < integerBound

/-- A number with a fraction, an exponent or both, or one of the special numbers. -/
def isFloat (cs : List Char) : Bool :=
  let (_, rest) := signed cs
  if rest == "inf".toList || rest == "nan".toList then true
  else
    let (mantissa, exponent) := rest.span fun c => c != 'e' && c != 'E'
    let (whole, fraction) := mantissa.span (· != '.')
    let exponentOk :=
      match exponent with
      | [] => true
      | _ :: ds => (grouped? Char.isDigit (signed ds).2).isSome
    let fractionOk :=
      match fraction with
      | [] => !exponent.isEmpty
      | _ :: ds => (grouped? Char.isDigit ds).isSome
    (decimalDigits? whole).isSome && exponentOk && fractionOk

/-- The characters follow a shape in which `0` stands for any digit. -/
def hasShape : List Char → List Char → Bool
  | [], [] => true
  | '0' :: shape, c :: cs => c.isDigit && hasShape shape cs
  | s :: shape, c :: cs => s == c && hasShape shape cs
  | _, _ => false

/-- Two digits as a number. -/
def twoDigits (cs : List Char) (at_ : Nat) : Nat :=
  digitsIn 10 ((cs.drop at_).take 2)

/-- A calendar date: year, month and day. -/
def isDate (cs : List Char) : Bool :=
  hasShape "0000-00-00".toList cs
    && 1 ≤ twoDigits cs 5 && twoDigits cs 5 ≤ 12 && 1 ≤ twoDigits cs 8 && twoDigits cs 8 ≤ 31

/-- A time of day, with an optional fraction of the second. -/
def isTime (cs : List Char) : Bool :=
  hasShape "00:00:00".toList (cs.take 8)
    && twoDigits cs 0 ≤ 23 && twoDigits cs 3 ≤ 59 && twoDigits cs 6 ≤ 60
    && (match cs.drop 8 with
      | [] => true
      | '.' :: ds => !ds.isEmpty && ds.all Char.isDigit
      | _ => false)

/-- An offset from universal time. -/
def isOffset (cs : List Char) : Bool :=
  cs == ['Z'] || cs == ['z']
    || (hasShape "+00:00".toList cs || hasShape "-00:00".toList cs)
      && twoDigits cs 1 ≤ 23 && twoDigits cs 4 ≤ 59

/-- A character that starts an offset. -/
def startsOffset (c : Char) : Bool :=
  c == 'Z' || c == 'z' || c == '+' || c == '-'

/-- A date, a time, or both with an optional offset. -/
def isDateTime (cs : List Char) : Bool :=
  isTime cs || isDate cs
    || (isDate (cs.take 10)
      && (match cs.drop 10 with
        | t :: rest =>
          let (time, offset) := rest.span fun c => !startsOffset c
          (t == 'T' || t == 't' || t == ' ') && isTime time && (offset.isEmpty || isOffset offset)
        | [] => false))

/-- A character of a number, a truth value or a date. -/
def isAtomChar (c : Char) : Bool :=
  c.isAlphanum || c == '_' || c == '-' || c == '+' || c == '.' || c == ':'

/-- A scalar that is not a string. A date may be parted from its time by one space. -/
def atom? (cs : List Char) : Option (Value × List Char) :=
  let (word, rest) := cs.span isAtomChar
  let (word, rest) :=
    match rest with
    | ' ' :: d :: more =>
      if isDate word && d.isDigit then
        let (time, rest) := (d :: more).span isAtomChar
        (word ++ ' ' :: time, rest)
      else (word, rest)
    | _ => (word, rest)
  if word == "true".toList then some (.bool true, rest)
  else if word == "false".toList then some (.bool false, rest)
  else
    match integer? word with
    | some n => some (.int n, rest)
    | none =>
      if isFloat word || isDateTime word then some (.decimal (String.ofList word), rest) else none

end LayerLint.Data.Toml
