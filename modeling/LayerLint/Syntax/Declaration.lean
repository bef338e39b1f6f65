import LayerLint.Syntax.Names

/-!
# Reading declarations off a tree

Modifiers, names, members and parameters of classes and methods.
-/

set_option autoImplicit false

namespace LayerLint.Syntax

/-- Who may use a member. -/
inductive Visibility where
  | «public»
  | «protected»
  | «private»
deriving DecidableEq, Inhabited

namespace Node

/-! ## Modifiers -/

/-- The visibility that is written on a member or a parameter. -/
def visibility? (n : Node) (source : Source) : Option Visibility := do
  let modifier ← n.namedChildren.find? fun c => c.kind == .visibilityModifier
  let text := Text.foldAscii (modifier.text source)
  if Text.startsWith "private" text then return .private
  else if Text.startsWith "protected" text then return .protected
  else return .public

/-- A member without visibility is public. -/
def isPublic (n : Node) (source : Source) : Bool :=
  match n.visibility? source with
  | none => true
  | some v => v == .public

/-- A member of the class itself. -/
def isStatic (n : Node) : Bool :=
  n.hasChild .staticModifier

/-- A class that cannot be extended. -/
def isFinal (n : Node) : Bool :=
  n.hasChild .finalModifier

/-! ## Classes -/

/-- The name that a declaration gives. -/
def declaredName? (n : Node) (source : Source) : Option String :=
  (n.child? .name).map fun name => name.text source

/-- The members of a class, comments among them. -/
def classMembers (n : Node) : List Node :=
  ((n.child? .body).map namedChildren).getD []

/-- The methods of a class. -/
def classMethods (n : Node) : List Node :=
  n.classMembers.filter fun m => m.kind == .methodDeclaration

/-- A kind of node that has members of its own but is no named class. -/
def hidesClass : Kind → Bool
  | .traitDeclaration => true
  | .interfaceDeclaration => true
  | .enumDeclaration => true
  | .anonymousClass => true
  | .objectCreation => true
  | _ => false

/-- The class among enclosing nodes, given innermost first, unless something else with members
comes before it. -/
def classAmong : List Node → Option Node
  | [] => none
  | n :: outer =>
    if n.kind == .classDeclaration then some n
    else if hidesClass n.kind then none
    else classAmong outer

/-- The node is a name that a class may go by. -/
def isClassName (n : Node) : Bool :=
  n.kind == .name || n.kind == .qualifiedName

/-- The class that a class extends, as it is written. -/
def baseClass? (n : Node) (source : Source) : Option String := do
  let clause ← n.namedChildren.find? fun c => c.kind == .baseClause
  let name ← clause.namedChildren.find? isClassName
  return name.text source

/-! ## Methods -/

/-- The body of a method that has one. -/
def methodBody? (n : Node) : Option Node :=
  (n.child? .body).filter fun b => b.kind == .block

/-- The node is a parameter. -/
def isParameter (n : Node) : Bool :=
  n.kind == .simpleParameter || n.kind == .variadicParameter || n.kind == .promotionParameter

/-- The parameters of a method. -/
def methodParameters (n : Node) : List Node :=
  (((n.child? .parameters).map namedChildren).getD []).filter isParameter

/-- The name of a plain variable, without its sign. -/
def variableName? (n : Node) (source : Source) : Option String :=
  if n.kind == .variableName then
    let name := Text.trimStart (· == '$') (n.text source)
    if name == "" then none else some name
  else none

/-- The variable that a parameter binds. -/
def binding? (n : Node) (source : Source) : Option String := do
  let name ← match n.child? .name with
    | some name => some name
    | none => n.namedChildren.find? fun c => c.kind == .variableName
  name.variableName? source

/-- The variable that the first parameter of a method binds. -/
def firstBinding? (n : Node) (source : Source) : Option String := do
  let parameter ← n.methodParameters.head?
  parameter.binding? source

end Node

/-- The class directly around a node. -/
def Site.enclosingClass? (s : Site) : Option Node :=
  Node.classAmong s.ancestors

end LayerLint.Syntax
