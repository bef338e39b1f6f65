/-!
# Syntax trees

A syntax tree is an ordered tree of nodes. A node has a kind, a place in the source given by byte
offsets, the role it plays in its parent, and its children in source order. Punctuation and keywords
are nodes too; the nodes of all other kinds are called named. Comments are named nodes and stand
inside the innermost node that has a token before and after them.
-/

set_option autoImplicit false

namespace LayerLint.Syntax

/-- What a node is. -/
inductive Kind where
  -- tokens without a name of their own
  | symbol
  | doubleArrow
  -- trivia
  | comment
  | text
  | openTag
  -- files and statements
  | program
  | block
  | emptyStatement
  | expressionStatement
  | labelStatement
  | ifStatement
  | elseIfClause
  | elseClause
  | switchStatement
  | switchBlock
  | caseStatement
  | whileStatement
  | doStatement
  | forStatement
  | foreachStatement
  | foreachPair
  | colonBlock
  | gotoStatement
  | continueStatement
  | breakStatement
  | returnStatement
  | tryStatement
  | catchClause
  | finallyClause
  | declareStatement
  | declareDirective
  | echoStatement
  | exitStatement
  | unsetStatement
  | globalDeclaration
  | staticDeclaration
  | staticVariable
  | namespaceDefinition
  | namespaceName
  | namespaceUseDeclaration
  | namespaceUseClause
  | namespaceUseGroup
  -- declarations
  | functionDefinition
  | classDeclaration
  | interfaceDeclaration
  | traitDeclaration
  | enumDeclaration
  | anonymousClass
  | baseClause
  | interfaceClause
  | declarationList
  | methodDeclaration
  | propertyDeclaration
  | propertyElement
  | propertyHookList
  | propertyHook
  | constDeclaration
  | constElement
  | useDeclaration
  | useList
  | enumCase
  | attributeList
  | attributeGroup
  | attributeClause
  | visibilityModifier
  | staticModifier
  | finalModifier
  | abstractModifier
  | readonlyModifier
  | varModifier
  | referenceModifier
  -- parameters and types
  | formalParameters
  | simpleParameter
  | variadicParameter
  | promotionParameter
  | primitiveType
  | namedType
  | optionalType
  | unionType
  | intersectionType
  -- names and variables
  | name
  | qualifiedName
  | relativeName
  | variableName
  | dynamicVariable
  | byRef
  -- expressions
  | integer
  | float
  | string
  | encapsedString
  | stringContent
  | heredoc
  | nowdoc
  | shellCommand
  | arrayCreation
  | arrayElement
  | listLiteral
  | variadicUnpacking
  | variadicPlaceholder
  | arguments
  | argument
  | functionCall
  | memberCall
  | nullsafeMemberCall
  | scopedCall
  | memberAccess
  | nullsafeMemberAccess
  | scopedPropertyAccess
  | classConstantAccess
  | subscript
  | objectCreation
  | assignment
  | referenceAssignment
  | augmentedAssignment
  | binary
  | unary
  | update
  | cast
  | conditional
  | parenthesized
  | closure
  | arrowFunction
  | closureUse
  | matchExpression
  | matchBlock
  | matchArm
  | clone
  | print
  | throwExpression
  | yieldExpression
  | includeExpression
  | errorSuppression
deriving DecidableEq, Inhabited

/-- The part that a node plays in its parent. -/
inductive Role where
  | none
  | name
  | body
  | type
  | parameters
  | object
  | arguments
  | scope
  | left
  | right
deriving DecidableEq, Inhabited

/-- How messages call a role. -/
def Role.label : Role → String
  | none => ""
  | name => "name"
  | body => "body"
  | type => "type"
  | parameters => "parameters"
  | object => "object"
  | arguments => "arguments"
  | scope => "scope"
  | left => "left"
  | right => "right"

/-- A node with everything below it. `start` and `stop` are byte offsets. -/
inductive Node where
  | mk (kind : Kind) (role : Role) (start stop : Nat) (children : List Node)
deriving Inhabited

namespace Node

/-- What the node is. -/
def kind : Node → Kind
  | mk k _ _ _ _ => k

/-- The part the node plays in its parent. -/
def role : Node → Role
  | mk _ r _ _ _ => r

/-- The offset of the first byte. -/
def start : Node → Nat
  | mk _ _ s _ _ => s

/-- The offset after the last byte. -/
def stop : Node → Nat
  | mk _ _ _ e _ => e

/-- The children in source order. -/
def children : Node → List Node
  | mk _ _ _ _ cs => cs

/-- Neither punctuation nor a keyword. -/
def isNamed (n : Node) : Bool :=
  n.kind != .symbol && n.kind != .doubleArrow

/-- A comment. -/
def isComment (n : Node) : Bool :=
  n.kind == .comment

/-- The children that are named. -/
def namedChildren (n : Node) : List Node :=
  n.children.filter isNamed

/-- The first child in a role. -/
def child? (n : Node) (role : Role) : Option Node :=
  n.children.find? fun c => c.role == role

/-- Some child has the kind. -/
def hasChild (n : Node) (kind : Kind) : Bool :=
  n.children.any fun c => c.kind == kind

/-- The node in another role. -/
def withRole (role : Role) : Node → Node
  | mk k _ s e cs => mk k role s e cs

/-- The node as another kind. -/
def withKind (kind : Kind) : Node → Node
  | mk _ r s e cs => mk kind r s e cs

/-- A node that spans its children. -/
def ofChildren (kind : Kind) (cs : List Node) : Node :=
  mk kind .none ((cs.head?.map start).getD 0) ((cs.getLast?.map stop).getD 0) cs

/-! ## Pre-order -/

mutual

/-- The nodes of the tree, each before what is below it. -/
def preorder : Node → List Node
  | mk k r s e cs => mk k r s e cs :: preorderAll cs

/-- The nodes of several trees one after another. -/
def preorderAll : List Node → List Node
  | [] => []
  | n :: ns => preorder n ++ preorderAll ns

end

/-- The number of nodes. -/
def size (n : Node) : Nat :=
  n.preorder.length

end Node

end LayerLint.Syntax
