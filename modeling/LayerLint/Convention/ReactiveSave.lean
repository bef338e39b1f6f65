import LayerLint.Rule.Basic
import LayerLint.Syntax.Expression

/-!
# Saves inside save hooks

A save hook that saves its own entity again starts the hooks anew, unless the options of the call
suppress them.
-/

set_option autoImplicit false

namespace LayerLint.Convention.ReactiveSave

open Syntax (Node Site Source MemberCall ArrayItem)

/-- The key of an option that suppresses hooks, as a string or as a constant. -/
def isSuppressionKey (source : Source) (key : Node) : Bool :=
  match key.stringLiteral? source with
  | some name => Text.startsWith "skip" name || name == "silent"
  | none =>
    match key.classConstant? source with
    | some (owner, constant) =>
      Text.occursIn "SaveOption" owner
        && (Text.startsWith "SKIP_" constant || constant == "SILENT")
    | none => false

/-- The item suppresses hooks and is not switched off. -/
def suppresses (source : Source) (item : ArrayItem) : Bool :=
  (match item.key with
    | some key => isSuppressionKey source key
    | none => false)
    && !item.value.isFalsy source

/-- The options are an array with an item that suppresses hooks. -/
def suppressesHooks (source : Source) (options : Node) : Bool :=
  match options.arrayItems? with
  | some items => items.any (suppresses source)
  | none => false

/-- The call saves the variable with hooks. -/
def offends (source : Source) (entity : String) (call : MemberCall) : Bool :=
  call.isNamed persistCalls
    && (call.arguments.head?.bind fun a => a.variableName? source) == some entity
    && !(((call.arguments[1]?).map (suppressesHooks source)).getD false)

/-- The message about a save in a hook after the save. -/
def afterMessage : String :=
  "Saving the same entity inside afterSave re-triggers the save hooks and can loop forever. Pass SaveOption::SKIP_HOOKS or 'silent' => true, or move the change to beforeSave."

/-- The message about a save in a hook before the save. -/
def beforeMessage : String :=
  "Saving the same entity inside beforeSave starts a nested save before the current one finishes. Set the values on the entity instead; they are stored by the save in progress."

/-- The first call in a method that saves the entity of the method with hooks. -/
def offendingCall? (source : Source) (method : Node) : Option MemberCall := do
  let entity ← method.firstBinding? source
  let body ← method.methodBody?
  (body.memberCalls source).find? (offends source entity)

/-- Judges a method of a hook. -/
def judge (id : String) (ctx : Context) (site : Site) : Except Fault (List Diagnostic) :=
  if !ctx.inLayer .hooks then .ok []
  else do
    let hook := ctx.text (← Rule.part .methodDecl site.node .name)
    if !saveHooks.contains hook then return []
    else
      match offendingCall? ctx.source site.node with
      | none => return []
      | some call =>
        let message := if hook == "afterSave" then afterMessage else beforeMessage
        return [Rule.report id ctx call.node message]

/-- Save hooks do not save their own entity. -/
def noSameEntitySave : Rule :=
  .declare "rules::hooks" "NoSameEntitySaveRule" .methodDecl
    "Save hooks do not save their own entity without suppressing hooks"
    fun id ctx site => Rule.verdict (judge id ctx site)

end LayerLint.Convention.ReactiveSave
