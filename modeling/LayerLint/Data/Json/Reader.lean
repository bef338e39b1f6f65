import LayerLint.Data.Value

/-!
# Reading JSON

The reader takes a value off the front of the characters and returns what is left. It accepts the
JSON grammar; a number without fraction and exponent is an integer, any other keeps its text.
-/

set_option autoImplicit false

namespace LayerLint.Data.Json

/-! ## Scalars -/

/-- The blanks that may stand between tokens. -/
def isSpace (c : Char) : Bool :=
  c == ' ' || c == '\n' || c == '\r' || c == '\t'

/-- Without leading blanks. -/
def skipSpace (cs : List Char) : List Char :=
  cs.dropWhile isSpace

/-- The value of a hexadecimal digit. -/
def hexValue? (c : Char) : Option Nat :=
  if '0' ≤ c ∧ c ≤ '9' then some (c.toNat - '0'.toNat)
  else if 'a' ≤ c ∧ c ≤ 'f' then some (c.toNat - 'a'.toNat + 10)
  else if 'A' ≤ c ∧ c ≤ 'F' then some (c.toNat - 'A'.toNat + 10)
  else none

/-- The number written by four hexadecimal digits. -/
def hex4? (a b c d : Char) : Option Nat := do
  let a ← hexValue? a
  let b ← hexValue? b
  let c ← hexValue? c
  let d ← hexValue? d
  return ((a * 16 + b) * 16 + c) * 16 + d

/-- The character that a backslash and a letter stand for. -/
def unescape? : Char → Option Char
  | '"' => some '"'
  | '\\' => some '\\'
  | '/' => some '/'
  | 'b' => some '\x08'
  | 'f' => some '\x0c'
  | 'n' => some '\n'
  | 'r' => some '\r'
  | 't' => some '\t'
  | _ => none

/-- The character of a pair of surrogates. -/
def pairValue (high low : Nat) : Char :=
  Char.ofNat (0x10000 + (high - 0xD800) * 0x400 + (low - 0xDC00))

/-- The rest of a string after its opening quote; `done` holds the characters read so far, last one
first. -/
def stringBody (done : List Char) : List Char → Option (String × List Char)
  | [] => none
  | '"' :: rest => some (String.ofList done.reverse, rest)
  | '\\' :: 'u' :: a :: b :: c :: d :: '\\' :: 'u' :: e :: f :: g :: h :: rest =>
    match hex4? a b c d, hex4? e f g h with
    | some m, some n =>
      if 0xD800 ≤ m ∧ m < 0xDC00 then
        if 0xDC00 ≤ n ∧ n < 0xE000 then stringBody (pairValue m n :: done) rest else none
      else if 0xDC00 ≤ m ∧ m < 0xE000 then none
      else stringBody (Char.ofNat m :: done) ('\\' :: 'u' :: e :: f :: g :: h :: rest)
    | _, _ => none
  | '\\' :: 'u' :: a :: b :: c :: d :: rest =>
    match hex4? a b c d with
    | some m =>
      if 0xD800 ≤ m ∧ m < 0xE000 then none else stringBody (Char.ofNat m :: done) rest
    | none => none
  | '\\' :: c :: rest =>
    match unescape? c with
    | some u => stringBody (u :: done) rest
    | none => none
  | c :: rest => if c.toNat < 0x20 ∨ c = '\\' then none else stringBody (c :: done) rest

/-- The number that decimal digits write. -/
def digitsValue (ds : List Char) : Nat :=
  ds.foldl (fun n d => n * 10 + (d.toNat - '0'.toNat)) 0

/-- The fraction and exponent after an integer part. -/
def fractionAndExponent (cs : List Char) : Option (List Char × List Char) := do
  let (fraction, rest) ←
    match cs with
    | '.' :: more =>
      let (digits, rest) := more.span Char.isDigit
      if digits.isEmpty then none else some ('.' :: digits, rest)
    | _ => some ([], cs)
  match rest with
  | e :: more =>
    if e == 'e' || e == 'E' then
      let (sign, more) :=
        match more with
        | '+' :: more => (['+'], more)
        | '-' :: more => (['-'], more)
        | _ => ([], more)
      let (digits, rest) := more.span Char.isDigit
      if digits.isEmpty then none else some (fraction ++ e :: sign ++ digits, rest)
    else some (fraction, rest)
  | [] => some (fraction, rest)

/-- A number. -/
def number? (cs : List Char) : Option (Value × List Char) := do
  let (negative, unsigned) :=
    match cs with
    | '-' :: rest => (true, rest)
    | _ => (false, cs)
  let (whole, rest) := unsigned.span Char.isDigit
  if whole.isEmpty || (whole.head? == some '0' && whole.length != 1) then none
  else
    let (tail, rest) ← fractionAndExponent rest
    let n := digitsValue whole
    if tail.isEmpty && !(negative && n == 0) then
      some (.int (if negative then -n else n), rest)
    else
      some (.decimal (String.ofList ((if negative then ['-'] else []) ++ whole ++ tail)), rest)

/-! ## Values -/

mutual

/-- A value at the front of the characters; `fuel` bounds the number of nested calls. -/
def value? : Nat → List Char → Option (Value × List Char)
  | 0, _ => none
  | fuel + 1, cs =>
    match skipSpace cs with
    | 'n' :: 'u' :: 'l' :: 'l' :: rest => some (.null, rest)
    | 't' :: 'r' :: 'u' :: 'e' :: rest => some (.bool true, rest)
    | 'f' :: 'a' :: 'l' :: 's' :: 'e' :: rest => some (.bool false, rest)
    | '"' :: rest => (stringBody [] rest).map fun (s, rest) => (.string s, rest)
    | '[' :: rest =>
      match skipSpace rest with
      | ']' :: rest => some (.array [], rest)
      | _ => (items? fuel rest).map fun (vs, rest) => (.array vs, rest)
    | '\x7b' :: rest =>
      match skipSpace rest with
      | '\x7d' :: rest => some (.record [], rest)
      | _ => (members? fuel rest).map fun (ms, rest) => (.record ms, rest)
    | rest => number? rest

/-- At least one item, and the closing bracket. -/
def items? : Nat → List Char → Option (List Value × List Char)
  | 0, _ => none
  | fuel + 1, cs => do
    let (v, rest) ← value? fuel cs
    match skipSpace rest with
    | ']' :: rest => some ([v], rest)
    | ',' :: rest =>
      let (vs, rest) ← items? fuel rest
      some (v :: vs, rest)
    | _ => none

/-- At least one member, and the closing brace. -/
def members? : Nat → List Char → Option (List (String × Value) × List Char)
  | 0, _ => none
  | fuel + 1, cs =>
    match skipSpace cs with
    | '"' :: rest => do
      let (k, rest) ← stringBody [] rest
      match skipSpace rest with
      | ':' :: rest =>
        let (v, rest) ← value? fuel rest
        match skipSpace rest with
        | '\x7d' :: rest => some ([(k, v)], rest)
        | ',' :: rest =>
          let (ms, rest) ← members? fuel rest
          some ((k, v) :: ms, rest)
        | _ => none
      | _ => none
    | _ => none

end

/-- Reads a text that holds one value and blanks around it. -/
def parse? (s : String) : Option Value :=
  let cs := s.toList
  match value? (cs.length + 1) cs with
  | some (v, rest) => if (skipSpace rest).isEmpty then some v else none
  | none => none

end LayerLint.Data.Json
