import LayerLint.ClassIndex
import LayerLint.Convention.PartialLoad.HookReads
import LayerLint.Diagnostic
import LayerLint.FileSystem
import LayerLint.Layer
import LayerLint.Syntax.Cursor
import LayerLint.Syntax.DeclaredTypes
import LayerLint.Text.Quoted

/-!
# Rules

A rule looks at the declarations of one kind and reports diagnostics, or fails. All it may look at is
in its context; besides that it may ask for what hooks read, which a shared memory answers.
-/

set_option autoImplicit false

namespace LayerLint

open Syntax (Node Site Role)

/-- The kind of declaration that a rule looks at. -/
inductive Subject where
  | classDecl
  | methodDecl
deriving DecidableEq, Inhabited

namespace Subject

/-- The subject that a node is. -/
def ofNode? (n : Node) : Option Subject :=
  match n.kind with
  | .classDeclaration => some classDecl
  | .methodDeclaration => some methodDecl
  | _ => none

/-- How messages call such a declaration. -/
def label : Subject → String
  | classDecl => "class_declaration"
  | methodDecl => "method_declaration"

/-- How a description of a rule shows the subject. -/
def title : Subject → String
  | classDecl => "Class"
  | methodDecl => "Method"

end Subject

/-- Why a rule could not judge a declaration. -/
inductive Fault where
  /-- A part of the declaration is missing. -/
  | missing (subject : Subject) (role : Role)
  /-- The rule broke down, possibly with a text. -/
  | crash (text : Option String)
deriving DecidableEq, Inhabited

/-- The text of a fault. -/
def Fault.message : Fault → String
  | missing subject role =>
    "`" ++ subject.label ++ "` node has no `" ++ role.label ++ "`"
  | crash text => text.getD "panic"

/-- Everything that rules may look at while they judge one file. -/
structure Context where
  file : SourceFile
  classes : ClassIndex
  config : Config
  fs : FileSystem
  /-- The classes that a variable of a method may hold. -/
  bindingClasses : Node → String → List String

namespace Context

/-- The context of a file, with the types that its source declares. -/
def ofFile (file : SourceFile) (classes : ClassIndex) (config : Config) (fs : FileSystem) :
    Context :=
  { file, classes, config, fs, bindingClasses := file.bindingClasses }

/-- The layer of the file, none outside the backend. -/
def layer? (ctx : Context) : Option Layer :=
  Layer.classify? ctx.file.displayPath ctx.config.backendRoot

/-- The file is in a layer. -/
def inLayer (ctx : Context) (layer : Layer) : Bool :=
  ctx.layer? == some layer

/-- The file is in the backend. -/
def inBackend (ctx : Context) : Bool :=
  ctx.layer?.isSome

/-- The source of the file. -/
def source (ctx : Context) : Syntax.Source :=
  ctx.file.source

/-- The text of a node. -/
def text (ctx : Context) (n : Node) : String :=
  n.text ctx.source

/-- The place of a node. -/
def location (ctx : Context) (n : Node) : Location :=
  let p := ctx.source.position n.start
  { file := ctx.file.displayPath, line := p.line, column := p.column }

end Context

/-- What judging a declaration gives. On the way it may ask for what hooks read. -/
abbrev Judgement := HookInquiry (Except Fault (List Diagnostic))

/-- A rule: its identity, and how it judges a declaration. -/
structure Rule where
  id : String
  name : String
  subject : Subject
  description : String
  judge : (id : String) → Context → Site → Judgement

namespace Rule

/-- The rule called `name` that is declared at `place`. -/
def declare (place name : String) (subject : Subject) (description : String)
    (judge : String → Context → Site → Judgement) : Rule :=
  { id := identifier place name, name, subject, description, judge }

/-- How a rule is shown: its identifier and its subject. -/
def describe (rule : Rule) : String :=
  "RuleDescriptor \x7b id: " ++ Text.quoted rule.id ++ ", node_kind: " ++ rule.subject.title
    ++ " \x7d"

/-- A finding of a rule about a node. -/
def report (id : String) (ctx : Context) (n : Node) (message : String) : Diagnostic :=
  { ruleId := id, message, location := ctx.location n, kind := .violation }

/-- A judgement that asks nothing. -/
def verdict (result : Except Fault (List Diagnostic)) : Judgement :=
  return result

/-- The part of a declaration in a role; its absence is a fault. -/
def part (subject : Subject) (n : Node) (role : Role) : Except Fault Node :=
  match n.child? role with
  | some c => .ok c
  | none => .error (.missing subject role)

end Rule

end LayerLint
