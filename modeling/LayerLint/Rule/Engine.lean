import LayerLint.Rule.Basic

/-!
# Running rules over a file

A file is visited once. At every node the rules for its kind are asked in the order in which they
were registered. A rule that fails leaves one diagnostic about itself and disturbs nothing else.
-/

set_option autoImplicit false

namespace LayerLint

open Syntax (Node Site)

/-- Rules in the order of their registration, and for each kind of declaration the positions of the
rules that look at it. -/
structure Engine where
  rules : List Rule := []
  classRules : List Nat := []
  methodRules : List Nat := []

namespace Engine

/-- No rules. -/
def empty : Engine := {}

/-- The positions of the rules for a kind of declaration. -/
def positions (engine : Engine) : Subject → List Nat
  | .classDecl => engine.classRules
  | .methodDecl => engine.methodRules

/-- Adds a rule at the end. -/
def register (engine : Engine) (rule : Rule) : Engine :=
  let position := engine.rules.length
  { rules := engine.rules ++ [rule]
    classRules :=
      if rule.subject == .classDecl then engine.classRules ++ [position] else engine.classRules
    methodRules :=
      if rule.subject == .methodDecl then engine.methodRules ++ [position] else engine.methodRules }

/-- The engine with some rules, registered in order. -/
def ofRules (rules : List Rule) : Engine :=
  rules.foldl register empty

/-- The identifier of diagnostics about rules that failed. -/
def faultId : String :=
  Rule.identifier "" "InternalRuleFault"

/-- The diagnostic about a rule that failed on a node. -/
def faultDiagnostic (rule : Rule) (ctx : Context) (n : Node) (fault : Fault) : Diagnostic :=
  { ruleId := faultId
    message := "Rule " ++ rule.id ++ " failed on this node: " ++ fault.message
    location := ctx.location n
    kind := .internalFault }

/-- What a rule contributes at a site. -/
def run (rule : Rule) (ctx : Context) (site : Site) : StateM HookMemo (List Diagnostic) := do
  match ← (rule.judge rule.id ctx site).run ctx.fs with
  | .ok found => return found
  | .error fault => return [faultDiagnostic rule ctx site.node fault]

/-- Runs actions one after another and joins what they give. -/
def gather {α : Type} (act : α → StateM HookMemo (List Diagnostic)) :
    List α → StateM HookMemo (List Diagnostic)
  | [] => return []
  | a :: as => do
    let first ← act a
    let rest ← gather act as
    return first ++ rest

/-- What the registered rules contribute at a site. -/
def runAt (engine : Engine) (ctx : Context) (site : Site) : StateM HookMemo (List Diagnostic) :=
  match Subject.ofNode? site.node with
  | none => return []
  | some subject =>
    gather
      (fun i =>
        match engine.rules[i]? with
        | some rule => run rule ctx site
        | none => return [])
      (engine.positions subject)

/-- The declarations of a file that rules may look at, in the order of the visit. -/
def subjects (file : SourceFile) : List Site :=
  file.root.visitOrder.filter fun site => (Subject.ofNode? site.node).isSome

/-- All diagnostics of a file, in the order of the visit. -/
def visit (engine : Engine) (ctx : Context) : StateM HookMemo (List Diagnostic) :=
  gather (engine.runAt ctx) (subjects ctx.file)

end Engine

end LayerLint
