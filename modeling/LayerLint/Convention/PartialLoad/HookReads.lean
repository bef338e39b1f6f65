import LayerLint.Syntax.Expression
import LayerLint.Syntax.File

/-!
# Fields that save hooks read

The hooks of an entity type stand in a directory of their own. The fields they read from the entity
that is being saved are the fields a partially loaded entity must not lack.

* `HookReads.collect`: the fields that the hooks of a directory read.
* `HookMemo`: the fields of each directory, worked out at most once.
* `HookInquiry`: a computation that asks for fields and sees nothing else of the memory.
-/

set_option autoImplicit false

namespace LayerLint

open Syntax (Node Source)

/-- The methods that run around a save. -/
def saveHooks : List String :=
  ["beforeSave", "afterSave"]

/-- The calls that store an entity. -/
def persistCalls : List String :=
  ["save", "saveEntity"]

namespace HookReads

/-- The calls that read a field. -/
def fieldReads : List String :=
  ["get", "getValue", "has"]

/-- The node is a method that runs around a save. -/
def isSaveHook (source : Source) (n : Node) : Bool :=
  n.kind == .methodDeclaration
    && (match n.declaredName? source with
      | some name => saveHooks.contains name
      | none => false)

/-- The field that a call reads from a variable. -/
def readField? (source : Source) (entity : String) (call : Syntax.MemberCall) : Option String := do
  let owner ← call.objectVariable? source
  if owner == entity && call.isNamed fieldReads then
    let argument ← call.arguments.head?
    argument.stringLiteral? source
  else none

/-- The fields that a save hook reads from its entity. -/
def ofMethod (source : Source) (method : Node) : List String :=
  match method.firstBinding? source, method.methodBody? with
  | some entity, some body => (body.memberCalls source).filterMap (readField? source entity)
  | _, _ => []

/-- The fields that the save hooks of a file read. A file with syntax errors tells nothing. -/
def ofFile (file : SourceFile) : List String :=
  if file.hasErrors then []
  else (file.root.findAll (isSaveHook file.source)).flatMap (ofMethod file.source)

/-- Adds names that have not been seen, in order. -/
def addNew (seen : List String) : List String → List String
  | [] => seen
  | name :: rest => if seen.contains name then addNew seen rest else addNew (seen ++ [name]) rest

/-- The source files directly in a directory, in the order of their paths. -/
def hookFiles (fs : FileSystem) (dir : Path) : List Path :=
  (((fs.list dir).map fun e => dir.join ⟨e.1⟩).filter fun p =>
    fs.isFile p && p.extension? == some "php").mergeSort Path.le

/-- The fields that the file at a path tells; none if it cannot be read. -/
def ofPath (fs : FileSystem) (path : Path) : List String :=
  match SourceFile.read fs path with
  | .ok file => ofFile file
  | .error _ => []

/-- The fields that the hooks in a directory read, each once, in the order in which they are first
met. -/
def collect (fs : FileSystem) (dir : Path) : List String :=
  (hookFiles fs dir).foldl (fun seen path => addNew seen (ofPath fs path)) []

end HookReads

/-! ## Working out each directory once -/

/-- What has been worked out. A directory is known by the components of its path; its cell is empty
until the fields are there. -/
structure HookMemo where
  cells : List (List Path.Component × Option (List String)) := []
deriving Inhabited

namespace HookMemo

/-- Nothing has been worked out. -/
def empty : HookMemo := {}

/-- The content of the cell of a directory, if the cell has been made. -/
def cell? (memo : HookMemo) (dir : Path) : Option (Option (List String)) :=
  memo.cells.lookup dir.components

/-- Makes the cell of a directory, unless it is there. -/
def ensure (memo : HookMemo) (dir : Path) : HookMemo :=
  match memo.cell? dir with
  | some _ => memo
  | none => ⟨(dir.components, none) :: memo.cells⟩

/-- Fills the cell of a directory, unless it is filled. -/
def fill (memo : HookMemo) (dir : Path) (fields : List String) : HookMemo :=
  ⟨memo.cells.map fun c =>
    if c.1 == dir.components then (c.1, some (c.2.getD fields)) else c⟩

/-- The fields of a directory: what its cell holds, or what is collected now and put there. -/
def required (fs : FileSystem) (dir : Path) : StateM HookMemo (List String) := do
  modify fun memo => memo.ensure dir
  match (← get).cell? dir with
  | some (some fields) => return fields
  | _ =>
    let fields := HookReads.collect fs dir
    modify fun memo => memo.fill dir fields
    return fields

end HookMemo

/-! ## Asking for fields -/

/-- A computation that may ask for the fields of directories. The memory itself is out of its reach:
all that an answer depends on is the answers before it. -/
inductive HookInquiry (α : Type) where
  | done (value : α)
  | ask (dir : Path) (next : List String → HookInquiry α)

namespace HookInquiry

variable {α β : Type}

/-- Goes on with the value of a computation. -/
def bind : HookInquiry α → (α → HookInquiry β) → HookInquiry β
  | done value, next => next value
  | ask dir rest, next => ask dir fun fields => (rest fields).bind next

instance : Monad HookInquiry where
  pure := done
  bind := bind

/-- The fields of a directory. -/
def fields (dir : Path) : HookInquiry (List String) :=
  ask dir done

/-- Carries a computation out, asking the memory. -/
def run (fs : FileSystem) : HookInquiry α → StateM HookMemo α
  | done value => return value
  | ask dir next => do
    let fields ← HookMemo.required fs dir
    run fs (next fields)

end HookInquiry

end LayerLint
