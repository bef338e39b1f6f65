import LayerLint.Config.Basic
import LayerLint.Syntax.Declaration
import LayerLint.Syntax.File

/-!
# The index of known classes

The index maps the names of classes and traits to what is known about them. Names are folded: the
case of ASCII letters and leading backslashes do not count. A later declaration of a class replaces
an earlier one.

The search for a method among the ancestors of a class has three answers: it is declared, it is not,
or part of the ancestors is unknown.
-/

set_option autoImplicit false

namespace LayerLint

/-- What the index knows about one class or trait. The names of methods are folded. -/
structure ClassInfo where
  parent : Option String := none
  methods : List String := []
  traits : List String := []
deriving DecidableEq, Inhabited

/-- A class with a parent and methods. -/
def ClassInfo.ofMethods (parent : Option String) (methods : List String) : ClassInfo where
  parent := parent
  methods := (methods.map Text.foldAscii).eraseDups

/-- The form under which the index keeps a name. -/
def classKey (name : String) : String :=
  Text.foldAscii (Text.trimStart (· == '\\') name)

/-- The classes and traits that are known. Each key occurs once. -/
structure ClassIndex where
  entries : List (String × ClassInfo) := []
deriving Inhabited

namespace ClassIndex

/-- Nothing is known. -/
def empty : ClassIndex := {}

/-- The number of known classes. -/
def size (index : ClassIndex) : Nat :=
  index.entries.length

/-- Nothing is known. -/
def isEmpty (index : ClassIndex) : Bool :=
  index.entries.isEmpty

/-- Adds a class, in place of an earlier one of the same name. -/
def insert (index : ClassIndex) (name : String) (info : ClassInfo) : ClassIndex :=
  ⟨(classKey name, info) :: index.entries.filter fun e => e.1 != classKey name⟩

/-- What is known about a class. -/
def get? (index : ClassIndex) (name : String) : Option ClassInfo :=
  index.entries.lookup (classKey name)

/-! ## Sources of knowledge -/

/-- The names in a trait use that the index follows. -/
def usedTraits (file : SourceFile) (member : Syntax.Node) : List String :=
  (member.namedChildren.filter Syntax.Node.isClassName).map fun n =>
    file.names.resolve (file.text n)

/-- What a declaration says about its class. -/
def describe (file : SourceFile) (declaration : Syntax.Node) : ClassInfo where
  parent := (declaration.baseClass? file.source).map file.names.resolve
  methods :=
    ((declaration.classMethods.filterMap fun m => m.declaredName? file.source).map
      Text.foldAscii).eraseDups
  traits :=
    (declaration.classMembers.filter fun m => m.kind == .useDeclaration).flatMap (usedTraits file)

/-- The classes and traits that a file declares, by full name and in order. -/
def declarations (file : SourceFile) : List (String × ClassInfo) :=
  (file.root.findAll fun n => n.kind == .classDeclaration || n.kind == .traitDeclaration).filterMap
    fun n => (n.declaredName? file.source).map fun name =>
      (file.names.qualify name, describe file n)

/-- Adds classes one after another. -/
def insertAll (index : ClassIndex) (classes : List (String × ClassInfo)) : ClassIndex :=
  classes.foldl (fun index c => index.insert c.1 c.2) index

/-- Adds what a file declares. -/
def addFile (index : ClassIndex) (file : SourceFile) : ClassIndex :=
  index.insertAll (declarations file)

/-- The classes that a configuration declares. -/
def knownClasses (config : Config) : List (String × ClassInfo) :=
  config.knownClasses.map fun known =>
    (known.name,
      ClassInfo.ofMethods (known.parent.map (Text.trimStart (· == '\\'))) known.methods)

/-- Adds the classes that a configuration declares. -/
def seed (index : ClassIndex) (config : Config) : ClassIndex :=
  index.insertAll (knownClasses config)

/-! ## The search among ancestors -/

/-- Asks several traits one after another, passing on which keys have been visited. It ends at the
first that declares the method; otherwise one unknown part makes the whole answer unknown. -/
def askTraits (ask : List String → String → Option Bool × List String) :
    List String → List String → Option Bool × List String
  | visited, [] => (some false, visited)
  | visited, name :: rest =>
    match ask visited name with
    | (some true, visited) => (some true, visited)
    | (some false, visited) => askTraits ask visited rest
    | (none, visited) =>
      match askTraits ask visited rest with
      | (some true, visited) => (some true, visited)
      | (_, visited) => (none, visited)

/-- Whether a trait declares a folded method, itself or through the traits it uses. A trait that has
been visited adds nothing. `fuel` bounds the number of nested traits. -/
def traitDeclares (index : ClassIndex) (method : String) :
    Nat → List String → String → Option Bool × List String
  | 0, visited, _ => (none, visited)
  | fuel + 1, visited, name =>
    if visited.contains (classKey name) then (some false, visited)
    else
      match index.get? name with
      | none => (none, classKey name :: visited)
      | some info =>
        if info.methods.contains method then (some true, classKey name :: visited)
        else askTraits (traitDeclares index method fuel) (classKey name :: visited) info.traits

/-- Whether one of the traits that a class uses declares a folded method. Each trait is searched
afresh. -/
def anyTraitDeclares (index : ClassIndex) (method : String) : List String → Option Bool
  | [] => some false
  | name :: rest =>
    match (traitDeclares index method (index.size + 1) [] name).1 with
    | some true => some true
    | some false => anyTraitDeclares index method rest
    | none =>
      match anyTraitDeclares index method rest with
      | some true => some true
      | _ => none

/-- The walk along the parents. `complete` says that nothing unknown was met so far. -/
def chainDeclares (index : ClassIndex) (method : String) :
    Nat → List String → Bool → String → Option Bool
  | 0, _, _, _ => none
  | fuel + 1, visited, complete, name =>
    if visited.contains (classKey name) then if complete then some false else none
    else
      match index.get? name with
      | none => none
      | some info =>
        if info.methods.contains method then some true
        else
          match anyTraitDeclares index method info.traits with
          | some true => some true
          | found =>
            let complete := complete && found == some false
            match info.parent with
            | none => if complete then some false else none
            | some parent =>
              chainDeclares index method fuel (classKey name :: visited) complete parent

/-- Whether a class, one of its ancestors, or a trait that they use declares a method. Unknown if
part of them is not in the index and the rest does not declare it. -/
def ancestorDeclares (index : ClassIndex) (name method : String) : Option Bool :=
  chainDeclares index (Text.foldAscii method) (index.size + 2) [] true name

end ClassIndex

end LayerLint
