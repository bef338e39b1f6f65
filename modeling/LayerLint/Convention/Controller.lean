import LayerLint.Rule.Basic

/-!
# Controllers

A controller may only override methods that an ancestor declares. Where part of its ancestors is
unknown there is no opinion.
-/

set_option autoImplicit false

namespace LayerLint.Convention.Controller

open Syntax (Site)

/-- The message about a method that no ancestor declares. -/
def message (method parent : String) : String :=
  "Controllers should not declare new methods, only override methods defined by the parent; `"
    ++ method ++ "` is not declared by `" ++ parent
    ++ "` or its ancestors. For new endpoints, implement API actions under src/backend/Api/ instead."

/-- Judges a method of a controller. -/
def judge (id : String) (ctx : Context) (site : Site) : Except Fault (List Diagnostic) :=
  if !ctx.inLayer .controllers then .ok []
  else
    match site.enclosingClass?.bind fun c => c.baseClass? ctx.source with
    | none => .ok []
    | some written => do
      let parent := ctx.file.names.resolve written
      let method := ctx.text (← Rule.part .methodDecl site.node .name)
      if ctx.classes.ancestorDeclares parent method == some false then
        return [Rule.report id ctx site.node (message method parent)]
      else return []

/-- Controllers only override. -/
def onlyOverrideParentMethods : Rule :=
  .declare "rules::controllers" "OnlyOverrideParentMethodsRule" .methodDecl
    "Controllers may only override methods declared by an ancestor"
    fun id ctx site => Rule.verdict (judge id ctx site)

end LayerLint.Convention.Controller
