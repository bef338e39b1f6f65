import LayerLint.Data.Value

/-!
# Writing JSON

Two layouts: compact on one line, and indented by two spaces with one member to a line. Strings
escape the quote, the backslash and the controls below the space; every other character stands for
itself.
-/

set_option autoImplicit false

namespace LayerLint.Data.Json

/-! ## Scalars -/

/-- A hexadecimal digit in lower case. -/
def hexDigit (n : Nat) : Char :=
  Nat.digitChar n

/-- One character inside a string. -/
def escapeChar (c : Char) : List Char :=
  if c == '"' then ['\\', '"']
  else if c == '\\' then ['\\', '\\']
  else if c == '\x08' then ['\\', 'b']
  else if c == '\x0c' then ['\\', 'f']
  else if c == '\n' then ['\\', 'n']
  else if c == '\r' then ['\\', 'r']
  else if c == '\t' then ['\\', 't']
  else if c.toNat < 0x20 then
    ['\\', 'u', '0', '0', hexDigit (c.toNat / 16), hexDigit (c.toNat % 16)]
  else [c]

/-- A string between quotes. -/
def quote (s : String) : List Char :=
  ['"'] ++ s.toList.flatMap escapeChar ++ ['"']

/-- The decimal digits of an integer, with a sign if it is negative. -/
def integer (n : Int) : List Char :=
  if n < 0 then '-' :: Nat.toDigits 10 n.natAbs else Nat.toDigits 10 n.natAbs

/-- A scalar value; arrays and records are empty here. -/
def scalar : Value → List Char
  | .null => "null".toList
  | .bool true => "true".toList
  | .bool false => "false".toList
  | .int n => integer n
  | .decimal text => text.toList
  | .string s => quote s
  | .array _ => ['[', ']']
  | .record _ => ['\x7b', '\x7d']

/-! ## Compact layout -/

mutual

/-- A value on one line, without blanks. -/
def compactChars : Value → List Char
  | .array items => '[' :: compactItems items
  | .record members => '\x7b' :: compactMembers members
  | v => scalar v

/-- The items of an array after its opening bracket. -/
def compactItems : List Value → List Char
  | [] => [']']
  | [v] => compactChars v ++ [']']
  | v :: rest => compactChars v ++ ',' :: compactItems rest

/-- The members of a record after its opening brace. -/
def compactMembers : List (String × Value) → List Char
  | [] => ['\x7d']
  | [(k, v)] => quote k ++ ':' :: (compactChars v ++ ['\x7d'])
  | (k, v) :: rest => quote k ++ ':' :: (compactChars v ++ ',' :: compactMembers rest)

end

/-- A value on one line, without blanks. -/
def compact (v : Value) : String :=
  String.ofList (compactChars v)

/-! ## Indented layout -/

/-- A line break and the indentation of a depth. -/
def newline (depth : Nat) : List Char :=
  '\n' :: List.replicate (2 * depth) ' '

mutual

/-- A value whose inner lines are indented below `depth`. -/
def prettyChars (depth : Nat) : Value → List Char
  | .array (v :: rest) =>
    '[' :: (newline (depth + 1) ++ prettyChars (depth + 1) v ++ prettyItems depth rest)
  | .record ((k, v) :: rest) =>
    '\x7b' :: (newline (depth + 1) ++ quote k ++ ':' :: ' ' :: (prettyChars (depth + 1) v
      ++ prettyMembers depth rest))
  | v => scalar v

/-- The items after the first one, and the closing bracket. -/
def prettyItems (depth : Nat) : List Value → List Char
  | [] => newline depth ++ [']']
  | v :: rest =>
    ',' :: (newline (depth + 1) ++ prettyChars (depth + 1) v ++ prettyItems depth rest)

/-- The members after the first one, and the closing brace. -/
def prettyMembers (depth : Nat) : List (String × Value) → List Char
  | [] => newline depth ++ ['\x7d']
  | (k, v) :: rest =>
    ',' :: (newline (depth + 1) ++ quote k ++ ':' :: ' ' :: (prettyChars (depth + 1) v
      ++ prettyMembers depth rest))

end

/-- A value over several lines, indented by two spaces. -/
def pretty (v : Value) : String :=
  String.ofList (prettyChars 0 v)

end LayerLint.Data.Json
