import LayerLint.Data.Toml.Scalar
import LayerLint.Data.Toml.Document

/-!
# Reading TOML

A document is read line by line into a growing table. A key may be defined once and a table opened
once; any other text than the grammar's is refused.
-/

set_option autoImplicit false

namespace LayerLint.Data.Toml

/-! ## Keys -/

/-- One part of a key. -/
def simpleKey? (cs : List Char) : Option (String × List Char) :=
  match keyString? cs with
  | some key => some key
  | none =>
    let (word, rest) := cs.span isBareKeyChar
    if word.isEmpty then none else some (String.ofList word, rest)

/-- The parts of a dotted key after the first one. -/
def moreKeys : Nat → List Char → Option (List String × List Char)
  | 0, _ => none
  | fuel + 1, cs =>
    match skipSpace cs with
    | '.' :: rest => do
      let (k, rest) ← simpleKey? (skipSpace rest)
      let (ks, rest) ← moreKeys fuel rest
      return (k :: ks, rest)
    | rest => some ([], rest)

/-- A key: the parts on the way, its last part, and what follows the blanks after it. -/
def key? (cs : List Char) : Option (List String × String × List Char) := do
  let (k, rest) ← simpleKey? (skipSpace cs)
  let (ks, rest) ← moreKeys (rest.length + 1) rest
  let keys := k :: ks
  return (keys.dropLast, keys.getLast?.getD k, rest)

/-! ## Values -/

/-- Blanks, line breaks and comments between the items of an array. -/
def skipLines : Nat → List Char → List Char
  | 0, cs => cs
  | fuel + 1, cs =>
    let rest := skipComment (skipSpace cs)
    match newline? rest with
    | some rest => skipLines fuel rest
    | none => rest

mutual

/-- A value at the front of the characters. -/
def value? : Nat → List Char → Option (Value × List Char)
  | 0, _ => none
  | fuel + 1, cs =>
    match cs with
    | '"' :: _ => (string? cs).map fun (s, rest) => (.string s, rest)
    | '\'' :: _ => (string? cs).map fun (s, rest) => (.string s, rest)
    | '[' :: rest => (items? fuel rest).map fun (vs, rest) => (.array vs, rest)
    | '\x7b' :: rest =>
      match skipSpace rest with
      | '\x7d' :: rest => some (.record [], rest)
      | rest => (inline? fuel (.empty false false) rest).map fun (t, rest) => (t.toValue, rest)
    | _ => atom? cs

/-- The items of an array and its closing bracket. A comma may follow the last item. -/
def items? : Nat → List Char → Option (List Value × List Char)
  | 0, _ => none
  | fuel + 1, cs =>
    match skipLines cs.length cs with
    | ']' :: rest => some ([], rest)
    | rest => do
      let (v, rest) ← value? fuel rest
      match skipLines rest.length rest with
      | ']' :: rest => return ([v], rest)
      | ',' :: rest =>
        let (vs, rest) ← items? fuel rest
        return (v :: vs, rest)
      | _ => none

/-- The members of an inline table and its closing brace. -/
def inline? : Nat → Table → List Char → Option (Table × List Char)
  | 0, _, _ => none
  | fuel + 1, t, cs => do
    let (path, key, rest) ← key? cs
    match rest with
    | '=' :: rest =>
      let (v, rest) ← value? fuel (skipSpace rest)
      let t ← t.define path key v
      match skipSpace rest with
      | '\x7d' :: rest => return (t, rest)
      | ',' :: rest => inline? fuel t rest
      | _ => none
    | _ => none

end

/-! ## Documents -/

/-- A document that has been read up to some line: all of it, and the path of the open table. -/
structure Progress where
  table : Table
  openPath : List String

/-- The end of a line: blanks, a comment, and a line break or the end of the text. -/
def lineEnd? (cs : List Char) : Option (List Char) :=
  match skipComment (skipSpace cs) with
  | [] => some []
  | rest => newline? rest

/-- What one line adds. -/
def line? (p : Progress) (cs : List Char) : Option (Progress × List Char) :=
  match skipSpace cs with
  | '[' :: '[' :: rest => do
    let (path, key, rest) ← key? rest
    match rest with
    | ']' :: ']' :: rest =>
      let table ← p.table.openElement path key
      let rest ← lineEnd? rest
      return (⟨table, path ++ [key]⟩, rest)
    | _ => none
  | '[' :: rest => do
    let (path, key, rest) ← key? rest
    match rest with
    | ']' :: rest =>
      let table ← p.table.openTable path key
      let rest ← lineEnd? rest
      return (⟨table, path ++ [key]⟩, rest)
    | _ => none
  | rest =>
    match lineEnd? rest with
    | some rest => some (p, rest)
    | none => do
      let (path, key, rest) ← key? rest
      match rest with
      | '=' :: rest =>
        let (v, rest) ← value? (rest.length + 1) (skipSpace rest)
        let table ← p.table.descend false (fun t => t.define path key v) p.openPath
        let rest ← lineEnd? rest
        return (⟨table, p.openPath⟩, rest)
      | _ => none

/-- All lines of a document. -/
def lines? : Nat → Progress → List Char → Option Table
  | _, p, [] => some p.table
  | 0, _, _ => none
  | fuel + 1, p, cs => do
    let (p, rest) ← line? p cs
    lines? fuel p rest

/-- Reads a document. A byte order mark at its start is skipped. -/
def parse? (s : String) : Option Value :=
  let cs :=
    match s.toList with
    | c :: rest => if c.toNat = 0xFEFF then rest else c :: rest
    | [] => []
  (lines? cs.length ⟨.empty false false, []⟩ cs).map Table.toValue

end LayerLint.Data.Toml
