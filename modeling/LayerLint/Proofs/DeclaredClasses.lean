import LayerLint.ClassIndex
import Mathlib.Data.List.Forall2

/-!
# What files and configurations say about classes

The index of classes is filled from files and from configurations.  What each of them says is spelled
out here on the nodes of the tree and on the settings, without the functions that collect it.

* `SourceFile.Describes` — what the node of a class or a trait says about it: full name, parent, own
  methods and used traits;
* `SourceFile.Declares` — the classes and traits of a file, in source order;
* `declares_declarations` — this is what the index takes from a file;
* `Config.Declares`, `declares_knownClasses` — the same for the classes of a configuration.

The names of methods stand for a set, so only membership is said of them.
-/

set_option autoImplicit false

namespace LayerLint

open Syntax (Node)

/-! ## Methods as sets -/

/-- The second list holds the names of the first in small letters, and nothing else. -/
def FoldsTo (written folded : List String) : Prop :=
  ∀ method, method ∈ folded ↔ ∃ name ∈ written, method = Text.foldAscii name

theorem foldsTo_eraseDups (written : List String) :
    FoldsTo written (written.map Text.foldAscii).eraseDups := by
  intro method
  rw [List.mem_eraseDups, List.mem_map]
  exact exists_congr fun name => and_congr_right fun _ => eq_comm

/-! ## Files -/

namespace SourceFile

/-- The node declares a class or a trait, and gives it a name. -/
def namesClass (n : Node) : Bool :=
  (n.kind == .classDeclaration || n.kind == .traitDeclaration) && (n.child? .name).isSome

/-- The node is a name of a class, with or without backslashes. -/
def isWrittenName (n : Node) : Bool :=
  n.kind == .name || n.kind == .qualifiedName

/-- The names after `use` in a body, in source order. -/
def usedNames (body : Node) : List Node :=
  (body.namedChildren.filter fun m => m.kind == .useDeclaration).flatMap fun m =>
    m.namedChildren.filter isWrittenName

variable (file : SourceFile)

/-- What the node of a class or a trait says about it. -/
structure Describes (n : Node) (name : String) (info : ClassInfo) : Prop where
  /-- The name is the one that the node gives, below the namespace of the file. -/
  name_eq : ∃ short, n.child? .name = some short ∧
    name = (file.names.home.elim "" fun home => home ++ "\\") ++ file.text short
  /-- The parent is the first name in the first clause after `extends`, as the names of the file
      resolve it. -/
  parent_iff : ∀ parent, info.parent = some parent ↔
    ∃ clause base, n.namedChildren.find? (fun c => c.kind == .baseClause) = some clause ∧
      clause.namedChildren.find? isWrittenName = some base ∧
        parent = file.names.resolve (file.text base)
  /-- The methods are those with a name that stand directly in the body, in small letters. -/
  methods_iff : ∀ method, method ∈ info.methods ↔
    ∃ body member short, n.child? .body = some body ∧ member ∈ body.namedChildren ∧
      member.kind = .methodDeclaration ∧ member.child? .name = some short ∧
        method = Text.foldAscii (file.text short)
  /-- The traits are those that stand after `use` directly in the body, in order, resolved too. -/
  traits_eq : info.traits =
    ((n.child? .body).toList.flatMap usedNames).map fun c => file.names.resolve (file.text c)

/-- The classes and traits of a file, each said by its node, in source order. -/
def Declares (classes : List (String × ClassInfo)) : Prop :=
  List.Forall₂ (fun n c => file.Describes n c.1 c.2) (file.root.preorder.filter namesClass) classes

theorem mem_classMembers_iff (n m : Node) :
    m ∈ n.classMembers ↔ ∃ body, n.child? .body = some body ∧ m ∈ body.namedChildren := by
  rw [Node.classMembers]
  cases n.child? .body <;> simp

theorem baseClass?_eq_some_iff (n : Node) (written : String) :
    n.baseClass? file.source = some written ↔
      ∃ clause base, n.namedChildren.find? (fun c => c.kind == .baseClause) = some clause ∧
        clause.namedChildren.find? isWrittenName = some base ∧ file.text base = written := by
  have hname : Node.isClassName = isWrittenName := rfl
  simp only [Node.baseClass?, hname, Option.bind_eq_bind, Option.bind_eq_some_iff, Option.pure_def,
    Option.some.injEq, exists_and_left]
  rfl

theorem qualify_eq_append (name : String) :
    file.names.qualify name = (file.names.home.elim "" fun home => home ++ "\\") ++ name := by
  rw [Syntax.Names.qualify]
  cases file.names.home <;> simp

theorem parent_describe (n : Node) (parent : String) :
    (ClassIndex.describe file n).parent = some parent ↔
      ∃ clause base, n.namedChildren.find? (fun c => c.kind == .baseClause) = some clause ∧
        clause.namedChildren.find? isWrittenName = some base ∧
          parent = file.names.resolve (file.text base) := by
  rw [ClassIndex.describe, Option.map_eq_some_iff]
  constructor
  · rintro ⟨written, hwritten, hparent⟩
    obtain ⟨clause, base, hclause, hbase, htext⟩ := (file.baseClass?_eq_some_iff n written).1 hwritten
    exact ⟨clause, base, hclause, hbase, by rw [htext, hparent]⟩
  · rintro ⟨clause, base, hclause, hbase, hparent⟩
    exact ⟨file.text base, (file.baseClass?_eq_some_iff n _).2 ⟨clause, base, hclause, hbase, rfl⟩,
      hparent.symm⟩

theorem mem_methods_describe (n : Node) (method : String) :
    method ∈ (ClassIndex.describe file n).methods ↔
      ∃ body member short, n.child? .body = some body ∧ member ∈ body.namedChildren ∧
        member.kind = .methodDeclaration ∧ member.child? .name = some short ∧
          method = Text.foldAscii (file.text short) := by
  have hfolds := foldsTo_eraseDups
    (n.classMethods.filterMap fun m => m.declaredName? file.source) method
  rw [ClassIndex.describe, hfolds]
  constructor
  · rintro ⟨name, hname, hmethod⟩
    obtain ⟨member, hmember, hnamed⟩ := List.mem_filterMap.1 hname
    obtain ⟨hmember, hkind⟩ := List.mem_filter.1 hmember
    obtain ⟨body, hbody, hmember⟩ := (mem_classMembers_iff n member).1 hmember
    obtain ⟨short, hshort, htext⟩ := Option.map_eq_some_iff.1 hnamed
    refine ⟨body, member, short, hbody, hmember, beq_iff_eq.1 hkind, hshort, ?_⟩
    rw [hmethod, ← htext, SourceFile.text]
  · rintro ⟨body, member, short, hbody, hmember, hkind, hshort, hmethod⟩
    have hmethods : member ∈ n.classMethods :=
      List.mem_filter.2 ⟨(mem_classMembers_iff n member).2 ⟨body, hbody, hmember⟩,
        beq_iff_eq.2 hkind⟩
    refine ⟨file.text short, List.mem_filterMap.2 ⟨member, hmethods, ?_⟩, hmethod⟩
    rw [Node.declaredName?, hshort, Option.map_some, SourceFile.text]

theorem traits_describe (n : Node) :
    (ClassIndex.describe file n).traits =
      ((n.child? .body).toList.flatMap usedNames).map fun c => file.names.resolve (file.text c) := by
  rw [ClassIndex.describe, Node.classMembers]
  cases n.child? .body with
  | none => rfl
  | some body =>
    simp only [Option.map_some, Option.getD_some, Option.toList_some, List.flatMap_singleton,
      usedNames, List.map_flatMap]
    rfl

/-- **What the index takes from a node is what the node says.** -/
theorem describes_describe {n short : Node} (hshort : n.child? .name = some short) :
    file.Describes n (file.names.qualify (file.text short)) (ClassIndex.describe file n) where
  name_eq := ⟨short, hshort, file.qualify_eq_append _⟩
  parent_iff := file.parent_describe n
  methods_iff := file.mem_methods_describe n
  traits_eq := file.traits_describe n

theorem forall₂_filterMap {α β : Type} {R : α → β → Prop} {p : α → Bool} {f : α → Option β}
    (hsome : ∀ a, p a = true → ∃ b, f a = some b ∧ R a b) (hnone : ∀ a, p a = false → f a = none) :
    ∀ as : List α, List.Forall₂ R (as.filter p) (as.filterMap f)
  | [] => .nil
  | a :: as => by
    have ih := forall₂_filterMap hsome hnone as
    cases hp : p a with
    | false =>
      rw [List.filter_cons_of_neg (by simp [hp]), List.filterMap_cons_none (hnone a hp)]
      exact ih
    | true =>
      obtain ⟨b, hb, hR⟩ := hsome a hp
      rw [List.filter_cons_of_pos hp, List.filterMap_cons_some hb]
      exact .cons hR ih

/-- **What the index takes from a file is what its nodes say, in order.** -/
theorem declares_declarations : file.Declares (ClassIndex.declarations file) := by
  rw [Declares, ClassIndex.declarations, Node.findAll_eq_filter_preorder, List.filterMap_filter]
  refine forall₂_filterMap (fun n hn => ?_) (fun n hn => ?_) file.root.preorder
  · obtain ⟨hkind, hnamed⟩ := Bool.and_eq_true_iff.1 hn
    obtain ⟨short, hshort⟩ := Option.isSome_iff_exists.1 hnamed
    refine ⟨(file.names.qualify (file.text short), ClassIndex.describe file n), ?_,
      file.describes_describe hshort⟩
    rw [if_pos hkind, Node.declaredName?, hshort]
    rfl
  · cases hkind : n.kind == .classDeclaration || n.kind == .traitDeclaration with
    | false => rw [if_neg (by simp)]
    | true =>
      have hunnamed : n.child? .name = none := by simpa [namesClass, hkind] using hn
      rw [if_pos rfl, Node.declaredName?, hunnamed]
      rfl

end SourceFile

/-! ## Configurations -/

/-- What a configuration says about a class. -/
structure KnownClass.Describes (known : KnownClass) (name : String) (info : ClassInfo) : Prop where
  name_eq : name = known.name
  parent_eq : info.parent = known.parent.map (Text.trimStart (· == '\\'))
  methods : FoldsTo known.methods info.methods
  traits_eq : info.traits = []

/-- The classes of a configuration, in order. -/
def Config.Declares (config : Config) (classes : List (String × ClassInfo)) : Prop :=
  List.Forall₂ (fun known c => known.Describes c.1 c.2) config.knownClasses classes

/-- **What the index takes from a configuration is what its entries say, in order.** -/
theorem Config.declares_knownClasses (config : Config) :
    config.Declares (ClassIndex.knownClasses config) := by
  rw [Config.Declares, ClassIndex.knownClasses, List.forall₂_map_right_iff, List.forall₂_same]
  exact fun known _ => ⟨rfl, rfl, foldsTo_eraseDups known.methods, rfl⟩

end LayerLint
