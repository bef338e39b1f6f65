import LayerLint.Rule.Basic
import LayerLint.Syntax.Expression

/-!
# Fields that a query selects

A chain of calls may restrict the fields that are loaded and name the entity type. Which of the
assignments to a variable counts at a place is decided by where they end: the latest in pre-order
that ends before the place.
-/

set_option autoImplicit false

namespace LayerLint.Convention.PartialLoad

open Syntax (Node MemberCall)

/-- The fields that a chain of calls selects, and the entity type that it names. -/
structure Projection where
  fields : List String
  entity : Option String
deriving DecidableEq, Inhabited

/-! ## Entity types -/

/-- A character of an entity type. -/
def isEntityChar (c : Char) : Bool :=
  c.isAlphanum || c == '_'

/-- The entity type of a class in a namespace for entities. -/
def entityOfClass? (fullName : String) : Option String :=
  match (Text.split (· == '\\') fullName).reverse with
  | entity :: "Entities" :: _ =>
    if entity != "" && entity.toList.all isEntityChar then some entity else none
  | _ => none

/-- The entity type that an argument names: a string, or the class of an entity. -/
def entityOfArgument? (ctx : Context) (argument : Node) : Option String :=
  match argument.stringLiteral? ctx.source with
  | some name => if name == "" then none else some name
  | none =>
    match argument.classConstant? ctx.source with
    | some (owner, constant) =>
      if Text.sameFolded constant "class" then entityOfClass? (ctx.file.names.resolve owner)
      else none
    | none => none

/-! ## Chains of calls -/

/-- The calls that give access to the entities of a type. -/
def repositoryLookups : List String :=
  ["getRDBRepositoryByClass", "getRDBRepository", "getRepository"]

/-- The field names that an argument writes out: the string itself, or the strings of an array. -/
def literalFields (ctx : Context) (argument : Node) : List String :=
  match argument.arrayItems? with
  | some items => items.filterMap fun item => item.value.stringLiteral? ctx.source
  | none => (argument.stringLiteral? ctx.source).toList

/-- The fields that the arguments of a selection write out, none if there are none. -/
def selectedFields? (ctx : Context) (arguments : List Node) : Option (List String) :=
  let fields := arguments.flatMap (literalFields ctx)
  if fields.isEmpty then none else some fields

/-- What is known while a chain is followed inwards. -/
structure ChainState where
  fields : Option (List String) := none
  entity : Option String := none
deriving DecidableEq, Inhabited

/-- What one call of a chain adds. An inner selection replaces an outer one, while the outermost
entity type stays. -/
def ChainState.step (ctx : Context) (state : ChainState) (call : MemberCall) : ChainState :=
  if call.isNamed ["select"] then
    { state with fields := selectedFields? ctx call.arguments }
  else if state.entity.isNone && call.isNamed repositoryLookups then
    { state with entity := call.arguments.head?.bind (entityOfArgument? ctx) }
  else state

/-- The calls of a chain, outermost first, at most `fuel` of them. -/
def chainUpTo (ctx : Context) : Nat → Option MemberCall → List MemberCall
  | _, none => []
  | 0, _ => []
  | fuel + 1, some call => call :: chainUpTo ctx fuel (call.receiver? ctx.source)

/-- The calls of the chain that an expression is, outermost first. -/
def chain (ctx : Context) (expression : Node) : List MemberCall :=
  chainUpTo ctx (expression.size + 1) (MemberCall.ofNode? ctx.source expression)

/-- The projection that an expression makes, if its chain selects fields. -/
def projection? (ctx : Context) (expression : Node) : Option Projection :=
  let state := (chain ctx expression).foldl (ChainState.step ctx) {}
  state.fields.map fun fields => { fields, entity := state.entity }

/-! ## Assignments -/

/-- An assignment to a plain variable. -/
structure Assignment where
  binding : String
  stop : Nat
  projection : Option Projection
deriving DecidableEq, Inhabited

/-- The assignment that a node makes. -/
def Assignment.ofNode? (ctx : Context) (n : Node) : Option Assignment := do
  let target ← n.child? .left
  let binding ← target.variableName? ctx.source
  return { binding, stop := n.stop, projection := (n.child? .right).bind (projection? ctx) }

/-- The assignments below a node, in pre-order. -/
def assignments (ctx : Context) (body : Node) : List Assignment :=
  (body.findAll fun n => n.kind == .assignment).filterMap (Assignment.ofNode? ctx)

/-- The projection that holds in a variable at an offset: that of the last assignment to it, in
pre-order, which ends there or before. -/
def liveAt (made : List Assignment) (binding : String) (offset : Nat) : Option Projection := do
  let last ← (made.filter fun a => a.binding == binding).reverse.find? fun a => a.stop ≤ offset
  last.projection

end LayerLint.Convention.PartialLoad
