import LayerLint.Syntax.Cursor
import LayerLint.Syntax.Source
import LayerLint.Text.Case
import LayerLint.Text.Cut
import LayerLint.Text.Word

/-!
# Names of classes

A class is written by a short name, a name under an imported one, or a full name. The namespace and
the imports of a file tell the full name of each.
-/

set_option autoImplicit false

namespace LayerLint.Syntax

/-- The text of a node. -/
def Node.text (n : Node) (source : Source) : String :=
  source.slice n.start n.stop

/-! ## Use declarations -/

/-- One imported class: the name it goes by, and its full name. -/
structure Import where
  localName : String
  fullName : String
deriving DecidableEq, Inhabited

namespace Import

/-- What follows a keyword and at least one blank, if the text starts with them. -/
def afterKeyword? (keyword : String) (cs : List Char) : Option (List Char) :=
  let head := cs.take keyword.length
  let rest := cs.drop keyword.length
  if head.map Char.toLower == keyword.toList && ((rest.head?.map Text.isBlank).getD false) then
    some (rest.dropWhile Text.isBlank)
  else none

/-- The text is about functions or constants. -/
def isForeign (cs : List Char) : Bool :=
  (afterKeyword? "function" cs).isSome || (afterKeyword? "const" cs).isSome

/-- A character of a name with backslashes. -/
def isNameChar (c : Char) : Bool :=
  c == '\\' || Text.isWord c

/-- One of the two letters of the word before an alias, in any case. -/
def isAsLetter (letter c : Char) : Bool :=
  c.toLower == letter || (letter == 's' && c.toNat == 0x17F)

/-- The alias that ends a clause: blanks, the word for it, blanks, and one word. -/
def aliasSuffix? (cs : List Char) : Option (List Char) :=
  let (blanks, rest) := cs.span Text.isBlank
  match rest with
  | a :: s :: more =>
    let (blanks', name) := more.span Text.isBlank
    if !blanks.isEmpty && isAsLetter 'a' a && isAsLetter 's' s && !blanks'.isEmpty
        && !name.isEmpty && name.all Text.isWord then
      some name
    else none
  | _ => none

/-- The name of a clause without one leading backslash, and what follows it. -/
def clauseName (cs : List Char) : List Char × List Char :=
  let (name, rest) := cs.span isNameChar
  match name with
  | '\\' :: c :: more => (c :: more, rest)
  | _ => (name, rest)

/-- A clause: a name, and possibly an alias. -/
def clause? (cs : List Char) : Option (List Char × Option (List Char)) :=
  let (name, rest) := clauseName cs
  if name.isEmpty then none
  else if rest.isEmpty then some (name, none)
  else (aliasSuffix? rest).map fun localName => (name, some localName)

/-- Without surrounding blanks. -/
def trimChars (cs : List Char) : List Char :=
  Text.dropEndWhile Text.isBlank (cs.dropWhile Text.isBlank)

/-- The part before braces, which all names in them share, and the clauses in the braces; or the
whole text as clauses if there are no braces. -/
def groupParts (body : List Char) : Option (List Char) × List Char :=
  match Text.cutAtFirst? ['\x7b'] body with
  | none => (none, body)
  | some (before, after) =>
    match Text.cutAtFirst? ['\x7d'] after.reverse with
    | none => (none, body)
    | some (_, inner) =>
      let base := Text.dropEndWhile (· == '\\') (trimChars before)
      (some (base.dropWhile (· == '\\')), inner.reverse)

/-- The import of a clause, below the name that a group shares. -/
def ofClause? (base : Option (List Char)) (clause : List Char) : Option Import := do
  let (name, localName) ← clause? clause
  let full :=
    match base with
    | some (c :: cs) => c :: cs ++ '\\' :: name
    | _ => name
  let fullName := String.ofList full
  return ⟨(localName.map String.ofList).getD (Text.afterLast (· == '\\') fullName), fullName⟩

/-- The imports of classes in the text of a use declaration, in order. -/
def ofDeclaration (text : String) : List Import :=
  let body := trimChars (Text.dropEndWhile (· == ';') (trimChars text.toList))
  match afterKeyword? "use" body with
  | none => []
  | some body =>
    if isForeign body then []
    else
      let (base, clauses) := groupParts body
      (((Text.pieces (· == ',') clauses).map trimChars).filter fun c =>
        !c.isEmpty && !isForeign c).filterMap (ofClause? base)

end Import

/-! ## The names of a file -/

/-- The namespace and the imports of a file. -/
structure Names where
  home : Option String := none
  /-- The imports in source order; a later one of the same local name wins. -/
  imports : List Import := []
deriving DecidableEq, Inhabited

namespace Names

/-- The names of a file with this tree: its first namespace, and all imports. -/
def ofTree (source : Source) (root : Node) : Names where
  home := do
    let definition ← root.findFirst fun n => n.kind == .namespaceDefinition
    let name ← definition.child? .name
    return Text.trimStart (· == '\\') (name.text source)
  imports :=
    (root.findAll fun n => n.kind == .namespaceUseDeclaration).flatMap fun n =>
      Import.ofDeclaration (n.text source)

/-- The full name that a local name stands for, in any ASCII case. -/
def imported? (names : Names) (localName : String) : Option String :=
  (names.imports.reverse.find? fun i => Text.sameFolded i.localName localName).map Import.fullName

/-- A name below the namespace of the file. -/
def qualify (names : Names) (name : String) : String :=
  match names.home with
  | some home => home ++ "\\" ++ name
  | none => name

/-- The words that stand for a class without naming it. -/
def isRelativeWord (written : String) : Bool :=
  ["self", "static", "parent"].any (Text.sameFolded written)

/-- The full name of a class as it is written, without a leading backslash. -/
def resolve (names : Names) (written : String) : String :=
  let written := Text.trim written
  match Text.dropLead? "\\" written with
  | some absolute => absolute
  | none =>
    if isRelativeWord written then written
    else
      match Text.cutFirst? "\\" written with
      | some (head, rest) =>
        match names.imported? head with
        | some full => full ++ "\\" ++ rest
        | none => names.qualify written
      | none =>
        match names.imported? written with
        | some full => full
        | none => names.qualify written

end Names

end LayerLint.Syntax
