import LayerLint.Syntax.Names

/-!
# String literals

The value of a string literal without expressions inside, and how a text is written as a literal.
Each quote has its own escapes; a backslash before any other character stands for itself.
-/

set_option autoImplicit false

namespace LayerLint.Syntax

/-- The two kinds of quotes. -/
inductive Quote where
  | single
  | double
deriving DecidableEq, Inhabited

namespace Quote

/-- The quote itself. -/
def char : Quote → Char
  | single => '\''
  | double => '"'

/-- The character that an escape stands for, if the quote knows the escape. -/
def escaped? : Quote → Char → Option Char
  | _, '\\' => some '\\'
  | single, '\'' => some '\''
  | double, '"' => some '"'
  | double, '$' => some '$'
  | double, 'n' => some '\n'
  | double, 't' => some '\t'
  | _, _ => none

/-- The value of the characters between the quotes. -/
def unescape (q : Quote) : List Char → List Char
  | [] => []
  | ['\\'] => ['\\']
  | '\\' :: c :: cs =>
    match q.escaped? c with
    | some u => u :: unescape q cs
    | none => '\\' :: c :: unescape q cs
  | c :: cs => c :: unescape q cs

/-- A character between the quotes, written so that it stands for itself. -/
def escapeChar : Quote → Char → List Char
  | single, c => if c == '\\' || c == '\'' then ['\\', c] else [c]
  | double, c =>
    if c == '\\' || c == '"' || c == '$' then ['\\', c]
    else if c == '\n' then ['\\', 'n']
    else if c == '\t' then ['\\', 't']
    else [c]

/-- The literal that writes a text. -/
def write (q : Quote) (cs : List Char) : List Char :=
  [q.char] ++ cs.flatMap q.escapeChar ++ [q.char]

/-- The characters between the quotes of a literal, which may have a letter in front. -/
def inner? (q : Quote) (literal : List Char) : Option (List Char) :=
  let raw :=
    match literal with
    | c :: cs => if c == 'b' || c == 'B' then cs else literal
    | [] => []
  match raw with
  | c :: body =>
    if c == q.char && body.getLast? == some q.char then some body.dropLast else none
  | [] => none

/-- The quotes around a string node. -/
def ofKind? : Kind → Option Quote
  | .string => some single
  | .encapsedString => some double
  | _ => none

end Quote

/-- The value of a string literal with nothing but text inside. -/
def Node.stringLiteral? (n : Node) (source : Source) : Option String := do
  let quote ← Quote.ofKind? n.kind
  if n.namedChildren.any fun c => c.kind != .stringContent then none
  else
    let body ← quote.inner? (n.text source).toList
    return String.ofList (quote.unescape body)

end LayerLint.Syntax
