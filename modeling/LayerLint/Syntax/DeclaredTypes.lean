import LayerLint.Syntax.Declaration
import LayerLint.Syntax.File

/-!
# Declared types of variables

Which classes a variable of a method may hold, as far as the source says so: in the type of a
parameter, or in a tag of a comment inside the method.
-/

set_option autoImplicit false

namespace LayerLint

open Syntax (Node)

/-! ## Type tags -/

/-- A tag that gives a variable a type. -/
structure TypeTag where
  type : String
  binding : String
deriving DecidableEq, Inhabited

namespace TypeTag

/-- A character of a type in a tag. -/
def isTypeChar (c : Char) : Bool :=
  c == '\\' || c == '|' || c == '?' || Text.isWord c

/-- The tag at the front of the characters, and what follows it. -/
def read? (cs : List Char) : Option (TypeTag × List Char) := do
  let rest ← "@var".toList.isPrefixOf? cs
  let (blanks, rest) := rest.span Text.isBlank
  let (type, rest) := rest.span isTypeChar
  let (blanks', rest) := rest.span Text.isBlank
  match rest with
  | '$' :: rest =>
    let (binding, rest) := rest.span Text.isWord
    if blanks.isEmpty || type.isEmpty || blanks'.isEmpty || binding.isEmpty then none
    else some (⟨String.ofList type, String.ofList binding⟩, rest)
  | _ => none

/-- The tags in a text from left to right, none overlapping another. -/
def scanUpTo : Nat → List Char → List TypeTag
  | 0, _ => []
  | _ + 1, [] => []
  | fuel + 1, c :: cs =>
    match read? (c :: cs) with
    | some (tag, rest) => tag :: scanUpTo fuel rest
    | none => scanUpTo fuel cs

/-- The tags in a text. -/
def scan (text : String) : List TypeTag :=
  scanUpTo text.toList.length text.toList

/-- The words for types that are no classes. -/
def pseudoTypes : List String :=
  ["int", "integer", "float", "bool", "boolean", "string", "array", "iterable", "mixed", "null",
    "void", "callable", "object", "false", "true", "never", "self", "static"]

/-- The part of a type names a class. -/
def isClassLike (written : String) : Bool :=
  written != "" && !pseudoTypes.any (Text.sameFolded written)

/-- The classes that a tag names, as they are written. -/
def classes (tag : TypeTag) : List String :=
  ((Text.split (· == '|') tag.type).map (Text.trimStart (· == '?'))).filter isClassLike

end TypeTag

/-! ## Types of bindings -/

namespace SourceFile

/-- The classes that a type names, as they are written. -/
def namedTypes (file : SourceFile) (type : Node) : List String :=
  if type.isClassName then [file.text type]
  else (type.findAll fun n => n.kind == .namedType).map file.text

/-- The classes in the types of the parameters that bind a variable. -/
def parameterClasses (file : SourceFile) (method : Node) (binding : String) : List String :=
  (method.methodParameters.filter fun p => p.binding? file.source == some binding).flatMap fun p =>
    match p.child? .type with
    | some type => (file.namedTypes type).map file.names.resolve
    | none => []

/-- The classes that the tags of a comment give to a variable. -/
def commentClasses (file : SourceFile) (comment : Node) (binding : String) : List String :=
  ((TypeTag.scan (file.text comment)).filter fun tag => tag.binding == binding).flatMap fun tag =>
    tag.classes.map file.names.resolve

/-- The full names of the classes that a variable is declared to hold: from parameters first, then
from the comments inside the method. -/
def bindingClasses (file : SourceFile) (method : Node) (binding : String) : List String :=
  file.parameterClasses method binding
    ++ (method.findAll Node.isComment).flatMap fun comment => file.commentClasses comment binding

end SourceFile

end LayerLint
