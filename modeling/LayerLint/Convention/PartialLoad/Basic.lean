import LayerLint.Convention.PartialLoad.Projection

/-!
# Saves of partially loaded entities

An entity that was loaded with some fields only lacks the others when its save hooks read them. A
save of such an entity without options is reported if its hooks read a field that was not selected.
-/

set_option autoImplicit false

namespace LayerLint.Convention.PartialLoad

open Syntax (Node Site MemberCall)

/-- The entity type that a variable holds: a declared one first, then the one its query names. -/
def entityType? (ctx : Context) (method : Node) (binding : String) (projection : Projection) :
    Option String :=
  match (ctx.bindingClasses method binding).findSome? entityOfClass? with
  | some entity => some entity
  | none => projection.entity

/-- The most fields that a message lists. -/
def listedLimit : Nat := 5

/-- The fields that a message lists. -/
def listed (missing : List String) : String :=
  ", ".intercalate (missing.take listedLimit)
    ++ (if listedLimit < missing.length then ", …" else "")

/-- The message about a save without fields that hooks read. -/
def message (entityType : String) (missing : List String) : String :=
  "Saving partially-loaded " ++ entityType
    ++ " without skipHooks/silent may break hooks; missing fields: " ++ listed missing
    ++ ". Add fields to select() or pass SaveOptions with skipHooks=true or silent=true."

/-- The required fields that a projection leaves out. The identifier is always there. -/
def missingFields (required : List String) (projection : Projection) : List String :=
  required.filter fun f => f != "id" && !projection.fields.contains f

/-- A save whose variable holds a projection of a known entity type. -/
structure PartialSave where
  call : MemberCall
  projection : Projection
  entityType : String
  hooks : Path
deriving Inhabited

/-- The partial save that a call is. A call with options is taken to be guarded. -/
def PartialSave.ofCall? (ctx : Context) (method : Node) (made : List Assignment)
    (call : MemberCall) : Option PartialSave :=
  match call.arguments with
  | [argument] =>
    if call.isNamed persistCalls then do
      let binding ← argument.variableName? ctx.source
      let projection ← liveAt made binding call.node.start
      let entityType ← entityType? ctx method binding projection
      let hooks ← hooksDirectory? ctx.file.displayPath ctx.config.backendRoot entityType
      return { call, projection, entityType, hooks }
    else none
  | _ => none

/-- The partial saves of a method, in pre-order. -/
def partialSaves (ctx : Context) (method : Node) : List PartialSave :=
  match method.methodBody? with
  | none => []
  | some body =>
    let made := assignments ctx body
    (body.memberCalls ctx.source).filterMap (PartialSave.ofCall? ctx method made)

/-- Reports a partial save if hooks read a field that it lacks. -/
def judgeSave (id : String) (ctx : Context) (save : PartialSave) :
    HookInquiry (List Diagnostic) := do
  let required ← HookInquiry.fields save.hooks
  match missingFields required save.projection with
  | [] => return []
  | missing => return [Rule.report id ctx save.call.node (message save.entityType missing)]

/-- Reports partial saves one after another. -/
def judgeSaves (id : String) (ctx : Context) : List PartialSave → HookInquiry (List Diagnostic)
  | [] => return []
  | save :: rest => do
    let first ← judgeSave id ctx save
    let more ← judgeSaves id ctx rest
    return first ++ more

/-- Judges a method of the backend. -/
def judge (id : String) (ctx : Context) (site : Site) : Judgement := do
  if !ctx.inBackend then return .ok []
  else
    let found ← judgeSaves id ctx (partialSaves ctx site.node)
    return .ok found

/-- Partially loaded entities keep the fields that hooks read. -/
def saveRestrictedEntityFields : Rule :=
  .declare "rules::hooks" "SaveRestrictedEntityFieldsRule" .methodDecl
    "Entities loaded with select() keep the fields their save hooks read" judge

end LayerLint.Convention.PartialLoad
