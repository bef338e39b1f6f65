import LayerLint.Syntax.Declaration
import LayerLint.Syntax.StringLiteral

/-!
# Reading expressions off a tree

Calls of methods, arguments, constants of classes, and the items of arrays.
-/

set_option autoImplicit false

namespace LayerLint.Syntax

namespace Node

/-- A call of a method of an object. -/
def isMemberCall (n : Node) : Bool :=
  n.kind == .memberCall || n.kind == .nullsafeMemberCall

/-- An access to a property of an object. -/
def isMemberAccess (n : Node) : Bool :=
  n.kind == .memberAccess || n.kind == .nullsafeMemberAccess

/-- The value of an argument; comments and the mark for a partial call have none. -/
def argumentValue? (n : Node) : Option Node :=
  match n.kind with
  | .argument => n.namedChildren.getLast?
  | .variadicPlaceholder => none
  | .comment => none
  | _ => some n

/-- The argument values of a call, in order. -/
def callArguments (n : Node) : List Node :=
  match n.child? .arguments with
  | some arguments => arguments.namedChildren.filterMap argumentValue?
  | none => []

/-- The class and the constant of an access to a class constant, as they are written. -/
def classConstant? (n : Node) (source : Source) : Option (String × String) :=
  if n.kind == .classConstantAccess then
    match n.namedChildren with
    | first :: second :: more =>
      some (first.text source, (((second :: more).getLast?).getD second).text source)
    | _ => none
  else none

/-- The literal for false or for null. -/
def isFalsy (n : Node) (source : Source) : Bool :=
  let text := Text.trimStart (· == '\\') (Text.trim (n.text source))
  Text.sameFolded text "false" || Text.sameFolded text "null"

end Node

/-! ## Arrays -/

/-- One item of an array. -/
structure ArrayItem where
  key : Option Node
  value : Node
deriving Inhabited

/-- The item that an element of an array makes. -/
def ArrayItem.ofElement? (element : Node) : Option ArrayItem := do
  let value ← element.namedChildren.getLast?
  let key :=
    match element.namedChildren with
    | first :: _ :: _ => if element.hasChild .doubleArrow then some first else none
    | _ => none
  return { key, value }

/-- The items of an array, none if the node is no array. -/
def Node.arrayItems? (n : Node) : Option (List ArrayItem) :=
  if n.kind == .arrayCreation then
    some ((n.namedChildren.filter fun c => c.kind == .arrayElement).filterMap ArrayItem.ofElement?)
  else none

/-! ## Calls -/

/-- A call of a method of an object. -/
structure MemberCall where
  node : Node
  object : Option Node
  /-- The name of the method, if it is a plain one. -/
  name : Option String
  arguments : List Node
deriving Inhabited

namespace MemberCall

/-- The call that a node makes. -/
def ofNode? (source : Source) (n : Node) : Option MemberCall :=
  if n.isMemberCall then
    some
      { node := n
        object := n.child? .object
        name := ((n.child? .name).filter fun m => m.kind == .name).map fun m => m.text source
        arguments := n.callArguments }
  else none

/-- The method has one of the names. -/
def isNamed (call : MemberCall) (names : List String) : Bool :=
  match call.name with
  | some name => names.contains name
  | none => false

/-- The call whose result this one is made on. -/
def receiver? (call : MemberCall) (source : Source) : Option MemberCall :=
  call.object.bind (ofNode? source)

/-- The variable this call is made on, if it is a plain one. -/
def objectVariable? (call : MemberCall) (source : Source) : Option String :=
  call.object.bind fun o => o.variableName? source

end MemberCall

/-- The calls of methods below a node, in pre-order. -/
def Node.memberCalls (n : Node) (source : Source) : List MemberCall :=
  (n.findAll Node.isMemberCall).filterMap (MemberCall.ofNode? source)

end LayerLint.Syntax
