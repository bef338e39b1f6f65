import LayerLint.Rule.Basic
import LayerLint.Syntax.Expression

/-!
# Entities

An entity names its type and its template in public constants, and its methods leave the entity
manager alone.
-/

set_option autoImplicit false

namespace LayerLint.Convention.Entity

open Syntax (Node Site Kind)

/-! ## Public constants -/

/-- One constant of a class that everybody may see. -/
structure PublicConstant where
  declaredType : Option Node
  name : String
  value : Option Node
deriving Inhabited

/-- The kinds of nodes that are types. A union some of whose parts are intersections in parentheses
is a union here and has no kind of its own. -/
def typeKinds : List Kind :=
  [.primitiveType, .namedType, .optionalType, .unionType, .intersectionType]

/-- The type that a declaration of constants gives. -/
def declaredType? (declaration : Node) : Option Node :=
  match declaration.child? .type with
  | some type => some type
  | none => declaration.namedChildren.find? fun c => typeKinds.contains c.kind

/-- The constant that an element of a declaration makes: its first named child is the name, its
second one the value. No part of an element is in the role of a value, so none is looked for in that
role first. -/
def PublicConstant.ofElement? (ctx : Context) (declaration element : Node) :
    Option PublicConstant :=
  match element.namedChildren with
  | [] => none
  | name :: rest =>
    some { declaredType := declaredType? declaration, name := ctx.text name, value := rest.head? }

/-- The public constants of a class, in order. -/
def publicConstants (ctx : Context) (n : Node) : List PublicConstant :=
  (n.classMembers.filter fun m => m.kind == .constDeclaration && m.isPublic ctx.source).flatMap
    fun declaration =>
      (declaration.namedChildren.filter fun c => c.kind == .constElement).filterMap
        (PublicConstant.ofElement? ctx declaration)

/-- The literal value of a constant. -/
def PublicConstant.literal? (ctx : Context) (constant : PublicConstant) : Option String :=
  constant.value.bind fun v => v.stringLiteral? ctx.source

/-! ## The entity type -/

/-- A constant that gives the entity type: a string by its type, or by its value where types are
not required. -/
def givesEntityType (ctx : Context) (constant : PublicConstant) : Bool :=
  constant.name == "ENTITY_TYPE"
    && (match constant.declaredType with
      | some type => Text.sameFolded (ctx.text type) "string"
      | none =>
        !ctx.config.entities.requireTypedConstants && (constant.literal? ctx).isSome)

/-- The message about an entity without type. -/
def missingTypeMessage : String :=
  "Entity must define public const string ENTITY_TYPE."

/-- The message about an entity whose type is not its class name. -/
def wrongTypeMessage (className : String) (value : Option String) : String :=
  let found :=
    match value with
    | some v => "'" ++ v ++ "'"
    | none => "a non-literal value"
  "Entity ENTITY_TYPE must equal the class name '" ++ className ++ "', found " ++ found ++ "."

/-- Judges the entity type of a class. -/
def judgeEntityType (id : String) (ctx : Context) (site : Site) : List Diagnostic :=
  if !ctx.inLayer .entities then []
  else
    match site.node.declaredName? ctx.source with
    | none => []
    | some className =>
      match (publicConstants ctx site.node).find? (givesEntityType ctx) with
      | none => [Rule.report id ctx site.node missingTypeMessage]
      | some constant =>
        let value := constant.literal? ctx
        if value == some className then []
        else
          [Rule.report id ctx (constant.value.getD site.node) (wrongTypeMessage className value)]

/-- Entities give their type. -/
def defineEntityTypeConstant : Rule :=
  .declare "rules::entities" "DefineEntityTypeConstantRule" .classDecl
    "Entities define public const string ENTITY_TYPE equal to the class name"
    fun id ctx site => Rule.verdict (.ok (judgeEntityType id ctx site))

/-! ## The template -/

/-- The allowed templates, as messages list them. -/
def expectedTemplates (ctx : Context) : String :=
  ", ".intercalate (ctx.config.entities.templateTypes.map fun t => "'" ++ t ++ "'")

/-- The message about an entity without template. -/
def missingTemplateMessage (expected : String) : String :=
  "Entity must define public const string TEMPLATE_TYPE with one of " ++ expected ++ "."

/-- The message about an entity with an unknown template. -/
def wrongTemplateMessage (expected : String) : String :=
  "Entity TEMPLATE_TYPE must be one of " ++ expected ++ "."

/-- Judges the template of a class. -/
def judgeTemplateType (id : String) (ctx : Context) (site : Site) : List Diagnostic :=
  if !ctx.inLayer .entities || (site.node.declaredName? ctx.source).isNone then []
  else
    match (publicConstants ctx site.node).filter fun c => c.name == "TEMPLATE_TYPE" with
    | [] => [Rule.report id ctx site.node (missingTemplateMessage (expectedTemplates ctx))]
    | first :: rest =>
      let isValid := (first :: rest).any fun c =>
        match c.literal? ctx with
        | some v => ctx.config.entities.templateTypes.contains v
        | none => false
      if isValid then []
      else
        [Rule.report id ctx (first.value.getD site.node)
          (wrongTemplateMessage (expectedTemplates ctx))]

/-- Entities name their template. -/
def defineTemplateTypeConstant : Rule :=
  .declare "rules::entities" "DefineTemplateTypeConstantRule" .classDecl
    "Entities define public const TEMPLATE_TYPE with a known template"
    fun id ctx site => Rule.verdict (.ok (judgeTemplateType id ctx site))

/-! ## The entity manager -/

/-- The node reaches for the entity manager, by its property or by its getter. -/
def usesEntityManager (ctx : Context) (n : Node) : Bool :=
  let named (wanted : String) : Bool :=
    match n.child? .name with
    | some name => ctx.text name == wanted
    | none => false
  if n.isMemberAccess then named "entityManager"
  else if n.isMemberCall then named "getEntityManager"
  else false

/-- The message about an entity that reaches for the entity manager. -/
def managerMessage : String :=
  "Entities must not use EntityManager, move business logic to the corresponding Service class."

/-- Judges a method of an entity. -/
def judgeEntityManager (id : String) (ctx : Context) (site : Site) : List Diagnostic :=
  if !ctx.inLayer .entities then []
  else
    match site.node.methodBody?.bind fun body => body.findFirst (usesEntityManager ctx) with
    | some n => [Rule.report id ctx n managerMessage]
    | none => []

/-- Entities leave the entity manager alone. -/
def noEntityManagerInEntity : Rule :=
  .declare "rules::entities" "NoEntityManagerInEntityRule" .methodDecl
    "Entity methods do not reach for the EntityManager"
    fun id ctx site => Rule.verdict (.ok (judgeEntityManager id ctx site))

end LayerLint.Convention.Entity
