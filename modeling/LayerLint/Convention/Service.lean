import LayerLint.Rule.Basic

/-!
# Services

A service extends the record service, its constructor calls that of the parent, and a service that
may be extended keeps its dependencies open to subclasses.
-/

set_option autoImplicit false

namespace LayerLint.Convention.Service

open Syntax (Node Site)

/-- The name of constructors. -/
def constructorName : String :=
  "__construct"

/-! ## The constructor of the parent -/

/-- The node in a role has a text, in any case. -/
def childReads (ctx : Context) (n : Node) (role : Syntax.Role) (text : String) : Bool :=
  match n.child? role with
  | some c => Text.sameFolded (ctx.text c) text
  | none => false

/-- The node calls the constructor of the parent. -/
def callsParent (ctx : Context) (n : Node) : Bool :=
  n.kind == .scopedCall && childReads ctx n .scope "parent" && childReads ctx n .name constructorName

/-- The method stands in a class with a parent. -/
def hasParent (ctx : Context) (site : Site) : Bool :=
  (site.enclosingClass?.bind fun c => c.baseClass? ctx.source).isSome

/-- The message about a constructor that leaves its parent out. -/
def constructorMessage : String :=
  "Service constructors must call parent::__construct()."

/-- Judges a method of a service. -/
def judgeConstructor (id : String) (ctx : Context) (site : Site) :
    Except Fault (List Diagnostic) :=
  if !ctx.inLayer .services then .ok []
  else do
    let name := ctx.text (← Rule.part .methodDecl site.node .name)
    if !Text.sameFolded name constructorName || !hasParent ctx site then return []
    else
      match site.node.methodBody? with
      | none => return []
      | some body =>
        if (body.findFirst (callsParent ctx)).isSome then return []
        else return [Rule.report id ctx site.node constructorMessage]

/-- Service constructors call that of the parent. -/
def callParentConstructor : Rule :=
  .declare "rules::services" "CallParentConstructorRule" .methodDecl
    "Service constructors call parent::__construct()"
    fun id ctx site => Rule.verdict (judgeConstructor id ctx site)

/-! ## Dependencies -/

/-- The constructor among the methods of a class. -/
def constructor? (ctx : Context) (n : Node) : Option Node :=
  n.classMethods.find? fun m =>
    match m.declaredName? ctx.source with
    | some name => Text.sameFolded name constructorName
    | none => false

/-- A parameter that makes a private property. -/
def isPrivateDependency (ctx : Context) (parameter : Node) : Bool :=
  parameter.kind == .promotionParameter && parameter.visibility? ctx.source == some .private

/-- The message about a dependency that subclasses cannot reach. -/
def dependencyMessage (className binding : String) : String :=
  "Service " ++ className ++ " is not final, so the promoted dependency $" ++ binding
    ++ " must be protected to stay available to subclasses. Declare it protected or mark the class final."

/-- Judges the dependencies of a service. -/
def judgeDependencies (id : String) (ctx : Context) (site : Site) : List Diagnostic :=
  if !ctx.inLayer .services || site.node.isFinal then []
  else
    match site.node.declaredName? ctx.source, constructor? ctx site.node with
    | some className, some method =>
      match method.methodParameters.find? (isPrivateDependency ctx) with
      | some parameter =>
        let binding := (parameter.binding? ctx.source).getD "dependency"
        [Rule.report id ctx parameter (dependencyMessage className binding)]
      | none => []
    | _, _ => []

/-- Services that may be extended keep their dependencies protected. -/
def dependencyVisibilityOrFinal : Rule :=
  .declare "rules::services" "DependencyVisibilityOrFinalRule" .classDecl
    "Non-final services keep promoted dependencies protected"
    fun id ctx site => Rule.verdict (.ok (judgeDependencies id ctx site))

/-! ## The record service -/

/-- A class name without leading backslashes. -/
def withoutLead (name : String) : String :=
  Text.trimStart (· == '\\') name

/-- The class extends the expected one. -/
def extendsClass (ctx : Context) (n : Node) (expected : String) : Bool :=
  match n.baseClass? ctx.source with
  | some parent => Text.sameFolded (withoutLead (ctx.file.names.resolve parent)) expected
  | none => false

/-- The message about a service that does not extend the record service. -/
def recordMessage (expected : String) : String :=
  "Services under src/backend/Services/ must extend " ++ expected
    ++ ". Place non-entity utilities under src/backend/Tools/."

/-- Judges the parent of a service. -/
def judgeRecord (id : String) (ctx : Context) (site : Site) : List Diagnostic :=
  if !ctx.inLayer .services || (site.node.declaredName? ctx.source).isNone then []
  else
    let expected := withoutLead ctx.config.services.recordBase
    if extendsClass ctx site.node expected then []
    else [Rule.report id ctx site.node (recordMessage expected)]

/-- Services extend the record service. -/
def serviceMustExtendRecord : Rule :=
  .declare "rules::services" "ServiceMustExtendRecordRule" .classDecl
    "Services extend the record service base class"
    fun id ctx site => Rule.verdict (.ok (judgeRecord id ctx site))

end LayerLint.Convention.Service
