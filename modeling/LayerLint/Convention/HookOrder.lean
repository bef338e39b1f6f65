import LayerLint.Rule.Basic

/-!
# The order of hooks

A hook class says when it runs in a public static property of integer type.
-/

set_option autoImplicit false

namespace LayerLint.Convention.HookOrder

open Syntax (Node Site)

/-- The property is declared as an integer. -/
def isIntTyped (ctx : Context) (property : Node) : Bool :=
  let type :=
    match property.child? .type with
    | some type => some type
    | none => property.namedChildren.find? fun c => c.kind == .primitiveType
  match type with
  | some type => Text.sameFolded (ctx.text type) "int"
  | none => false

/-- The property declaration declares a name. -/
def declares (ctx : Context) (property : Node) (name : String) : Bool :=
  (property.namedChildren.filter fun c => c.kind == .propertyElement).any fun element =>
    ((element.findFirst fun n => n.kind == .variableName).bind fun v =>
      v.variableName? ctx.source) == some name

/-- The member declares the order of a hook. -/
def isOrder (ctx : Context) (member : Node) : Bool :=
  member.kind == .propertyDeclaration && member.isPublic ctx.source && member.isStatic
    && isIntTyped ctx member && declares ctx member "order"

/-- The message about a hook without order. -/
def message : String :=
  "Hook classes must define public static int $order."

/-- Judges a hook class. -/
def judge (id : String) (ctx : Context) (site : Site) : List Diagnostic :=
  if !ctx.inLayer .hooks || (site.node.declaredName? ctx.source).isNone then []
  else if site.node.classMembers.any (isOrder ctx) then []
  else [Rule.report id ctx site.node message]

/-- Hooks declare their order. -/
def requireOrderProperty : Rule :=
  .declare "rules::hooks" "RequireOrderPropertyRule" .classDecl
    "Hooks declare their execution order with public static int $order"
    fun id ctx site => Rule.verdict (.ok (judge id ctx site))

end LayerLint.Convention.HookOrder
