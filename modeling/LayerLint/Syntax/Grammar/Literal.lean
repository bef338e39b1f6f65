import LayerLint.Syntax.Grammar.Reader

/-!
# Literals

Numbers, strings in single and double quotes, command strings, and texts between two labels. Double
quotes and labels let variables and whole expressions stand inside the text.
-/

set_option autoImplicit false

namespace LayerLint.Syntax.Grammar

/-! ## Numbers -/

/-- A digit or an underscore between digits. -/
def isDigitPart (isDigit : Char → Bool) (c : Char) : Bool :=
  isDigit c || c == '_'

/-- The length of an exponent at the front, zero if there is none. -/
def exponentLength : List Char → Nat
  | e :: cs =>
    if e == 'e' || e == 'E' then
      match cs with
      | s :: d :: rest =>
        if s.isDigit then 1 + (cs.takeWhile (isDigitPart Char.isDigit)).length
        else if (s == '+' || s == '-') && d.isDigit then
          2 + ((d :: rest).takeWhile (isDigitPart Char.isDigit)).length
        else 0
      | [d] => if d.isDigit then 2 else 0
      | [] => 0
    else 0
  | [] => 0

/-- The kind and the length of a number at the front. -/
def number? (cs : List Char) : Option (Kind × Nat) :=
  match cs with
  | '0' :: b :: d :: _ =>
    if (b == 'x' || b == 'X') && (d.isDigit || ('a' ≤ d.toLower && d.toLower ≤ 'f')) then
      some (.integer, 2 + ((cs.drop 2).takeWhile fun c => c.isAlphanum || c == '_').length)
    else if (b == 'b' || b == 'B' || b == 'o' || b == 'O') && d.isDigit then
      some (.integer, 2 + ((cs.drop 2).takeWhile (isDigitPart Char.isDigit)).length)
    else decimal
  | _ => decimal
where
  /-- A number in base ten. -/
  decimal : Option (Kind × Nat) :=
    let whole := cs.takeWhile (isDigitPart Char.isDigit)
    let after := cs.drop whole.length
    let fraction :=
      match after with
      | '.' :: '.' :: _ => 0
      | '.' :: '=' :: _ => 0
      | '.' :: more => 1 + (more.takeWhile (isDigitPart Char.isDigit)).length
      | _ => 0
    let exponent := exponentLength (after.drop fraction)
    if whole.isEmpty && fraction ≤ 1 then none
    else if fraction + exponent = 0 then some (.integer, whole.length)
    else some (.float, whole.length + fraction + exponent)

/-- A number. -/
def number : Parser Forest := do
  match number? (← rest) with
  | some (kind, n) => token kind n
  | none => failure

/-! ## Single quotes -/

/-- The number of characters of a string in single quotes up to and with its closing quote, after
`n` of them. -/
def singleQuotedLength : Nat → List Char → Option Nat
  | n, '\'' :: _ => some (n + 1)
  | n, '\\' :: _ :: cs => singleQuotedLength (n + 2) cs
  | n, _ :: cs => singleQuotedLength (n + 1) cs
  | _, [] => none

/-- A string in single quotes, after `lead` characters that belong to it. -/
def singleQuoted (lead : Nat) : Parser Forest := do
  match singleQuotedLength lead ((← rest).drop lead) with
  | some n => token .string n
  | none => failure

/-! ## Text with expressions inside -/

/-- A variable or an expression starts here. -/
def startsPart : List Char → Bool
  | '$' :: c :: _ => isNameStart c || c == '\x7b'
  | '\x7b' :: '$' :: _ => true
  | _ => false

/-- The number of characters up to the next part or to the end of the text, after `n` of them. A
backslash takes the character after it along, unless that ends the line. -/
def literalLength (ends : List Char → Bool) : Nat → List Char → Nat
  | n, [] => n
  | n, '\\' :: c :: cs =>
    if ends ('\\' :: c :: cs) then n
    else if c == '\n' || c == '\r' then literalLength ends (n + 1) (c :: cs)
    else literalLength ends (n + 2) cs
  | n, c :: cs =>
    if ends (c :: cs) || startsPart (c :: cs) then n else literalLength ends (n + 1) cs

/-- A closing brace inside a text: nothing is passed over after it. -/
def rawBrace : Parser Forest := do
  require ((← peekChar) == some '\x7d')
  rawToken .symbol 1

/-- The index inside simple brackets: a variable, a number or a word, with its length. -/
def simpleIndex? (cs : List Char) : Option (Kind × Nat) :=
  match cs with
  | '$' :: more => (word? more).map fun w => (.variableName, w.length + 1)
  | '-' :: more =>
    let digits := more.takeWhile Char.isDigit
    if digits.isEmpty then none else some (.unary, digits.length + 1)
  | _ =>
    match word? cs with
    | some w => some (.name, w.length)
    | none =>
      let digits := cs.takeWhile Char.isDigit
      if digits.isEmpty then none else some (.integer, digits.length)

/-- What may follow a variable in a text: an index in brackets or a property. -/
def simpleTail (base : Forest) : Parser Forest := do
  match ← rest with
  | '[' :: more =>
    match simpleIndex? more with
    | some (kind, n) =>
      if (more.drop n).head? == some ']' then
        node .subscript [return base, rawToken .symbol 1, rawToken kind n, rawToken .symbol 1]
      else return base
    | none => return base
  | '-' :: '>' :: more =>
    match word? more with
    | some w =>
      node .memberAccess [return inRole .object base, rawToken .symbol 2,
        role .name (rawToken .name w.length)]
    | none => return base
  | '?' :: '-' :: '>' :: more =>
    match word? more with
    | some w =>
      node .nullsafeMemberAccess [return inRole .object base, rawToken .symbol 3,
        role .name (rawToken .name w.length)]
    | none => return base
  | _ => return base

/-- A variable or an expression inside a text. -/
def part (recur : Recur) : Parser Forest := do
  match ← rest with
  | '\x7b' :: _ => seq [token .symbol 1, within true (recur (.expression 0)), rawBrace]
  | '$' :: '\x7b' :: _ =>
    node .dynamicVariable [token .symbol 2, within true (recur (.expression 0)), rawBrace]
  | '$' :: more =>
    match word? more with
    | some w => do simpleTail (← rawToken .variableName (w.length + 1))
    | none => failure
  | _ => failure

/-- One part of a text, or the literal characters up to the next one. -/
def textPiece (recur : Recur) (ends : List Char → Bool) : Parser Forest := do
  let cs ← rest
  if startsPart cs then part recur
  else
    let n := literalLength ends 0 cs
    require (n != 0)
    rawToken .stringContent n

/-- Everything up to the end of a text. -/
def textPieces (recur : Recur) (ends : List Char → Bool) : Parser Forest :=
  many (return !ends (← rest)) (textPiece recur ends)

/-- The text ends at a quote. -/
def endsAt (quote : Char) (cs : List Char) : Bool :=
  cs.head? == some quote

/-- A string in double quotes, after `lead` characters in front of its opening quote. -/
def doubleQuoted (recur : Recur) (lead : Nat) : Parser Forest :=
  node .encapsedString
    [rawToken .symbol (lead + 1), textPieces recur (endsAt '"'), token .symbol 1]

/-- A command string. -/
def shellCommand (recur : Recur) : Parser Forest :=
  node .shellCommand [rawToken .symbol 1, textPieces recur (endsAt '\x60'), token .symbol 1]

/-! ## Labelled texts -/

/-- The opening of a labelled text. -/
structure LabelOpening where
  /-- The number of characters of the opening. -/
  length : Nat
  label : List Char
  /-- No expressions stand inside. -/
  isLiteral : Bool

/-- A line break starts here. -/
def startsLine (cs : List Char) : Bool :=
  cs.head? == some '\n' || cs.head? == some '\r'

/-- The opening of a labelled text at the front, after `lead` characters. -/
def labelOpening? (lead : Nat) (cs : List Char) : Option LabelOpening :=
  match cs.drop lead with
  | '<' :: '<' :: '<' :: more =>
    let blanks := (more.takeWhile fun c => c == ' ' || c == '\t').length
    let more := more.drop blanks
    let quote := more.head?.filter fun c => c == '"' || c == '\''
    let more := if quote.isSome then more.drop 1 else more
    match word? more with
    | none => none
    | some label =>
      let after := more.drop label.length
      let quotes := if quote.isSome then 1 else 0
      if quote.isSome && after.head? != quote then none
      else if startsLine (after.drop quotes) then
        some ⟨lead + 3 + blanks + 2 * quotes + label.length, label, quote == some '\''⟩
      else none
  | _ => none

/-- The length of the line break, the indentation and the closing label at the front. -/
def labelClosing? (label : List Char) (cs : List Char) : Option Nat :=
  let breakLength :=
    match cs with
    | '\r' :: '\n' :: _ => 2
    | '\n' :: _ => 1
    | '\r' :: _ => 1
    | _ => 0
  let more := cs.drop breakLength
  let blanks := (more.takeWhile fun c => c == ' ' || c == '\t').length
  let after := more.drop blanks
  if breakLength != 0 && label.isPrefixOf after
      && !(((after.drop label.length).head?.map isNameChar).getD false) then
    some (breakLength + blanks + label.length)
  else none

/-- The number of characters up to the closing label, after `n` of them. -/
def untilLabel (label : List Char) : Nat → List Char → Nat
  | n, [] => n
  | n, c :: cs =>
    if (labelClosing? label (c :: cs)).isSome then n else untilLabel label (n + 1) cs

/-- The closing label of a labelled text. -/
def labelClosing (label : List Char) : Parser Forest := do
  match labelClosing? label (← rest) with
  | some n => token .symbol n
  | none => failure

/-- A labelled text, after `lead` characters in front of its opening. -/
def labelled (recur : Recur) (lead : Nat) : Parser Forest := do
  match labelOpening? lead (← rest) with
  | none => failure
  | some opening =>
    if opening.isLiteral then
      let start ← rawToken .symbol opening.length
      let n := untilLabel opening.label 0 (← rest)
      let body ← if n = 0 then pure [] else rawToken .stringContent n
      node .nowdoc [return start ++ body, labelClosing opening.label]
    else
      node .heredoc [rawToken .symbol opening.length,
        textPieces recur (fun cs => (labelClosing? opening.label cs).isSome),
        labelClosing opening.label]

end LayerLint.Syntax.Grammar
