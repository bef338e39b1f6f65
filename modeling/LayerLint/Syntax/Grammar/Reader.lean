import LayerLint.Syntax.Node

/-!
# Reading tokens

The state of reading a source is the characters that are left, their offset, and what was passed
over since the last token: comments, which become nodes in front of the next token, and closing
tags, which end a statement like a semicolon does, except inside of brackets, where no statement can
end. Reading a token passes over everything up to the next one, so a rule of the grammar always finds
the next token at the front.

A rule returns the nodes it has read. Comments in front of its first token come first, so whoever
builds a node from them leaves those outside: a comment ends up in the innermost node that has a
token on both sides of it.
-/

set_option autoImplicit false

namespace LayerLint.Syntax.Grammar

/-- Nodes in source order. -/
abbrev Forest := List Node

/-- The state of reading a source. -/
structure Reader where
  /-- The characters that are left. -/
  rest : List Char
  /-- The offset of the first of them. -/
  pos : Nat
  /-- The size of the whole source in bytes. -/
  size : Nat
  /-- A closing tag was passed since the last token. -/
  closed : Bool := false
  /-- What is being read stands in brackets, inside the statement that is being read. -/
  bracketed : Bool := false
  /-- The comments since the last token. -/
  comments : Forest := []

/-- A rule of the grammar: it fails or reads something off the front. -/
abbrev Parser := StateT Reader Option

/-! ## Characters -/

/-- A character that may stand between tokens. -/
def isSpace (c : Char) : Bool :=
  c == ' ' || (9 ≤ c.toNat && c.toNat ≤ 13) || c.toNat == 0xA0 || c.toNat == 0x200B
    || c.toNat == 0x2060 || c.toNat == 0xFEFF

/-- A character that may start a name. -/
def isNameStart (c : Char) : Bool :=
  c.isAlpha || c == '_' || (0x80 ≤ c.toNat && !isSpace c)

/-- A character that may continue a name. -/
def isNameChar (c : Char) : Bool :=
  isNameStart c || c.isDigit

/-- The number of bytes of some characters. -/
def byteSize (cs : List Char) : Nat :=
  cs.foldl (fun n c => n + c.utf8Size) 0

/-- The rest starts with the text. -/
def leads (text : String) (cs : List Char) : Bool :=
  text.toList.isPrefixOf cs

/-! ## Between tokens -/

/-- The end of a line comment. It runs to the end of the line or to a closing tag; a question mark
right before the end of the line takes the line break with it. -/
def lineCommentEnd : Nat → List Char → Nat × List Char
  | pos, '?' :: '>' :: cs => (pos, '?' :: '>' :: cs)
  | pos, '?' :: '\r' :: '\n' :: cs => (pos + 3, cs)
  | pos, '?' :: '\n' :: cs => (pos + 2, cs)
  | pos, '?' :: '\r' :: cs => (pos, '?' :: '\r' :: cs)
  | pos, '?' :: c :: cs => lineCommentEnd (pos + 1 + c.utf8Size) cs
  | pos, ['?'] => (pos, ['?'])
  | pos, c :: cs =>
    if c == '\r' || c == '\n' then (pos, c :: cs) else lineCommentEnd (pos + c.utf8Size) cs
  | pos, [] => (pos, [])

/-- The end of a block comment, after its opening. -/
def blockCommentEnd? : Nat → List Char → Option (Nat × List Char)
  | pos, '*' :: '/' :: cs => some (pos + 2, cs)
  | pos, c :: cs => blockCommentEnd? (pos + c.utf8Size) cs
  | _, [] => none

/-- The end of the text outside the tags: right before the next opening tag. -/
def textEnd : Nat → List Char → Nat × List Char
  | pos, '<' :: '?' :: cs => (pos, '<' :: '?' :: cs)
  | pos, c :: cs => textEnd (pos + c.utf8Size) cs
  | pos, [] => (pos, [])

/-- The number of characters of an opening tag at the front. -/
def openTagLength (cs : List Char) : Nat :=
  match cs with
  | '<' :: '?' :: '=' :: _ => 3
  | '<' :: '?' :: p :: h :: q :: _ =>
    if p.toLower == 'p' && h.toLower == 'h' && q.toLower == 'p' then 5 else 2
  | '<' :: '?' :: _ => 2
  | _ => 0

/-- A comment that starts at the front: its end and what follows. A hash in front of a bracket
opens an attribute instead. -/
def comment? (pos : Nat) : List Char → Option (Option (Nat × List Char))
  | '/' :: '/' :: cs => some (lineCommentEnd (pos + 2) cs)
  | '/' :: '*' :: cs => some (blockCommentEnd? (pos + 2) cs)
  | '#' :: '[' :: _ => none
  | '#' :: c :: cs =>
    if c == '?' || c == '\r' || c == '\n' then some (some (pos + 1, c :: cs))
    else some (lineCommentEnd (pos + 1 + c.utf8Size) cs)
  | ['#'] => some (some (pos + 1, []))
  | _ => none

/-- Passes over everything up to the next token. An unclosed comment is refused. -/
def skipTrivia : Nat → Reader → Option Reader
  | 0, r => some r
  | fuel + 1, r =>
    match r.rest with
    | [] => some r
    | '?' :: '>' :: cs =>
      let (pos, cs) := textEnd (r.pos + 2) cs
      let tag := openTagLength cs
      skipTrivia fuel { r with rest := cs.drop tag, pos := pos + tag, closed := true }
    | c :: cs =>
      if isSpace c then skipTrivia fuel { r with rest := cs, pos := r.pos + c.utf8Size }
      else
        match comment? r.pos (c :: cs) with
        | none => some r
        | some none => none
        | some (some (stop, after)) =>
          let comment := Node.mk .comment .none r.pos stop []
          skipTrivia fuel { r with rest := after, pos := stop, comments := r.comments ++ [comment] }

/-- Passes over everything up to the next token. -/
def trivia : Parser Unit := fun r =>
  (skipTrivia (r.size - r.pos + 1) { r with closed := false, comments := [] }).map fun r => ((), r)

/-! ## Tokens -/

/-- A token of `n` characters, with the comments in front of it, and nothing passed after it. -/
def rawToken (kind : Kind) (n : Nat) : Parser Forest := fun r =>
  let stop := r.pos + byteSize (r.rest.take n)
  some (r.comments ++ [Node.mk kind .none r.pos stop []],
    { r with rest := r.rest.drop n, pos := stop, closed := false, comments := [] })

/-- A token of `n` characters. -/
def token (kind : Kind) (n : Nat) : Parser Forest := do
  let forest ← rawToken kind n
  trivia
  return forest

/-- The characters that are left. -/
def rest : Parser (List Char) :=
  return (← get).rest

/-- The next character. -/
def peekChar : Parser (Option Char) :=
  return (← get).rest.head?

/-- Continues only if the condition holds. -/
def require (b : Bool) : Parser Unit :=
  if b then return () else failure

/-- What a rule would read, without reading it. -/
def ahead {α : Type} (p : Parser α) : Parser (Option α) := fun r =>
  some ((p r).map Prod.fst, r)

/-- Punctuation, longer signs before their beginnings. -/
def signs : List String :=
  ["<=>", "**=", "...", "<<=", ">>=", "===", "!==", "??=", "?->", "++", "--", "->", "=>", "==",
    "!=", "<>", "<=", ">=", "&&", "||", "??", "::", "+=", "-=", "*=", "/=", ".=", "%=", "&=", "|=",
    "^=", "<<", ">>", "**", "|>", "#["]

/-- The sign at the front: the longest that fits, else a single character that starts no name. -/
def sign? (cs : List Char) : Option String :=
  match signs.find? (leads · cs) with
  | some s => some s
  | none =>
    match cs with
    | [] => none
    | c :: _ => if isNameChar c then none else some c.toString

/-- The sign at the front. -/
def peekSign : Parser (Option String) :=
  return sign? (← rest)

/-- The sign at the front is this one. -/
def atSign (s : String) : Parser Bool :=
  return (← peekSign) == some s

/-- A sign. -/
def sign (s : String) : Parser Forest := do
  require (← atSign s)
  token .symbol s.length

/-- A sign, if it is at the front. -/
def optionalSign (s : String) : Parser Forest := do
  if ← atSign s then token .symbol s.length else return []

/-- The word at the front, as it is written. -/
def word? (cs : List Char) : Option (List Char) :=
  match cs with
  | [] => none
  | c :: _ => if isNameStart c then some (cs.takeWhile isNameChar) else none

/-- The word at the front in lower case, as keywords are compared. -/
def peekWord : Parser (Option String) :=
  return (word? (← rest)).map fun w => String.ofList (w.map Char.toLower)

/-- The word at the front is this keyword. -/
def atKeyword (w : String) : Parser Bool :=
  return (← peekWord) == some w

/-- The word at the front is one of these keywords. -/
def atKeywords (ws : List String) : Parser Bool :=
  return ((← peekWord).map ws.contains).getD false

/-- A keyword. -/
def keyword (w : String) : Parser Forest := do
  require (← atKeyword w)
  token .symbol w.length

/-- A keyword as a node of its own kind. -/
def modifier (kind : Kind) (w : String) : Parser Forest := do
  require (← atKeyword w)
  token kind w.length

/-- Any word as a name. -/
def nameToken : Parser Forest := do
  match word? (← rest) with
  | some w => token .name w.length
  | none => failure

/-! ## Combining rules -/

/-- One node from the forest. Comments in front of its first token stay outside. -/
def group (kind : Kind) (forest : Forest) : Forest :=
  let (outside, inside) := forest.span Node.isComment
  if inside.isEmpty then outside else outside ++ [Node.ofChildren kind inside]

/-- The forest with its last node in a role. -/
def inRole (role : Role) : Forest → Forest
  | [] => []
  | [n] => [n.withRole role]
  | n :: ns => n :: inRole role ns

/-- Rules one after another. -/
def seq : List (Parser Forest) → Parser Forest
  | [] => return []
  | p :: ps => do
    let forest ← p
    let more ← seq ps
    return forest ++ more

/-- A node from rules one after another. -/
def node (kind : Kind) (ps : List (Parser Forest)) : Parser Forest :=
  return group kind (← seq ps)

/-- What a rule reads, in a role. -/
def role (r : Role) (p : Parser Forest) : Parser Forest :=
  return inRole r (← p)

/-- What a rule reads, in brackets or outside of them. -/
def within {α : Type} (bracketed : Bool) (p : Parser α) : Parser α := do
  let outer := (← get).bracketed
  modify fun r => { r with bracketed }
  let x ← p
  modify fun r => { r with bracketed := outer }
  return x

/-- What a rule reads, between two brackets. -/
def brackets (opening : String) (p : Parser Forest) (closing : String) : Parser Forest :=
  seq [sign opening, within true p, sign closing]

/-- The rule if the condition holds, else nothing. -/
def whenever (condition : Parser Bool) (p : Parser Forest) : Parser Forest := do
  if ← condition then p else return []

/-- The first rule, or the second if it fails. -/
def either (p q : Parser Forest) : Parser Forest := fun r =>
  match p r with
  | some result => some result
  | none => q r

/-- A number of rounds that no repetition can exceed: each round reads something. -/
def rounds : Parser Nat := do
  let r ← get
  return r.size - r.pos + 2

/-- Repeats a rule while the condition holds; `done` holds what was read, last node first. -/
def repeatUpTo (more : Parser Bool) (p : Parser Forest) : Nat → Forest → Parser Forest
  | 0, _ => failure
  | fuel + 1, done => do
    if ← more then
      let forest ← p
      repeatUpTo more p fuel (forest.reverse ++ done)
    else return done.reverse

/-- Repeats a rule while the condition holds. -/
def many (more : Parser Bool) (p : Parser Forest) : Parser Forest := do
  repeatUpTo more p (← rounds) []

/-- The condition does not hold. -/
def otherwise (condition : Parser Bool) : Parser Bool :=
  return !(← condition)

/-- Items with commas between them up to a closing sign, which is not read. A comma may follow the
last item. -/
def itemsUntil (close : String) (item : Parser Forest) : Parser Forest :=
  many (otherwise (atSign close))
    (seq [item, whenever (otherwise (atSign close)) (sign ",")])

/-- At least one item, with commas between them. -/
def commaList (item : Parser Forest) : Parser Forest :=
  seq [item, many (atSign ",") (seq [sign ",", item])]

/-- A closing tag in front of the next token ends the statement. -/
def atTagEnd : Parser Bool := do
  let r ← get
  return r.closed && !r.bracketed

/-- The condition holds, and the statement has not ended before the next token. -/
def further (condition : Parser Bool) : Parser Bool := do
  if ← atTagEnd then return false else condition

/-- The sign at the front, if the statement has not ended before it. -/
def furtherSign : Parser (Option String) := do
  if ← atTagEnd then return none else peekSign

/-- The end of a statement: a semicolon, or a closing tag in front of the next token. -/
def semicolon : Parser Forest := do
  let r ← get
  if r.closed then
    set { r with closed := false }
    return []
  else sign ";"

/-- A part in braces, or the end of the statement in its place. -/
def bracesOrEnd (p : Parser Forest) : Parser Forest := do
  if ← further (atSign "\x7b") then p else semicolon

/-! ## Phrases -/

/-- The phrases through which the grammar is recursive. An expression has the least level that its
operators may have. -/
inductive Phrase where
  | expression (level : Nat)
  | statement
  | block
  | arguments
  | parameters
  | type
  | reference
  | members
  | attributes

/-- How to read phrases one level further down. -/
abbrev Recur := Phrase → Parser Forest

end LayerLint.Syntax.Grammar
