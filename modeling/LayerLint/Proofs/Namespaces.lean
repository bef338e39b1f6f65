import LayerLint.Proofs.ImportLink

/-!
# Files with several namespaces

A file may define several namespaces, with braces around what belongs to each or without.  A class
belongs to the one around it, or to the last one before it.  The index takes the first namespace of
the file for all of its classes.

* `Syntax.Site.home?` — the definition that a site belongs to;
* `ClassIndex.get?_addFile_eq` — what the index says after a file was added;
* `classKey_under_eq_iff` — full names are kept under one key just if both of their parts agree;
* `ClassIndex.first_namespace_for_all` — **every declaration is kept under the first namespace of
  its file, and hence under its own just if that is the first.**
-/

set_option autoImplicit false

namespace LayerLint

open Syntax (Node Site)

/-! ## The namespace of a declaration -/

namespace Syntax

/-- The node defines a namespace. -/
def Node.isNamespace (n : Node) : Bool :=
  n.kind == .namespaceDefinition

/-- The node defines a namespace that ends with its braces. -/
def Node.isBraced (n : Node) : Bool :=
  n.isNamespace && (n.child? .body).isSome

/-- The node defines a namespace that lasts up to the next one. -/
def Node.isOpen (n : Node) : Bool :=
  n.isNamespace && (n.child? .body).isNone

/-- The node declares a class or a trait. -/
def Node.isDeclaration (n : Node) : Bool :=
  n.kind == .classDeclaration || n.kind == .traitDeclaration

/-- The definition of the namespace that a site belongs to, given the sites before it: the innermost
    braces around it, or else the nearest definition without braces before it. -/
def Site.home? (site : Site) (earlier : List Site) : Option Node :=
  (site.ancestors.find? Node.isBraced).or ((earlier.map Site.node).reverse.find? Node.isOpen)

mutual

/-- What encloses a node of a tree encloses the whole tree, or is a node of it. -/
theorem Node.mem_of_mem_ancestors {outer : List Node} {site : Site} {a : Node} :
    ∀ {n : Node}, site ∈ n.sites outer → a ∈ site.ancestors → a ∈ outer ∨ a ∈ n.preorder
  | .mk k r s e cs, hsite, ha => by
    rw [sites, List.mem_cons] at hsite
    rw [preorder, List.mem_cons]
    obtain rfl | hsite := hsite
    · exact .inl ha
    · obtain houter | hbelow := mem_of_mem_ancestorsAll hsite ha
      · obtain rfl | houter := List.mem_cons.1 houter
        · exact .inr (.inl rfl)
        · exact .inl houter
      · exact .inr (.inr hbelow)

theorem Node.mem_of_mem_ancestorsAll {outer : List Node} {site : Site} {a : Node} :
    ∀ {ns : List Node}, site ∈ sitesAll outer ns → a ∈ site.ancestors →
      a ∈ outer ∨ a ∈ preorderAll ns
  | [], hsite, _ => by simp [sitesAll] at hsite
  | n :: ns, hsite, ha => by
    rw [sitesAll, List.mem_append] at hsite
    rw [preorderAll, List.mem_append]
    obtain hsite | hsite := hsite
    · exact (mem_of_mem_ancestors hsite ha).imp id .inl
    · exact (mem_of_mem_ancestorsAll hsite ha).imp id .inr

end

/-- A site of a tree belongs to a namespace that the tree defines. -/
theorem Site.mem_of_home? {root definition : Node} {earlier later : List Site} {site : Site}
    (hsites : root.sites [] = earlier ++ site :: later)
    (h : site.home? earlier = some definition) :
    definition ∈ root.preorder ∧ definition.isNamespace = true := by
  rw [home?, Option.or_eq_some_iff] at h
  obtain hbraced | ⟨-, hopen⟩ := h
  · have hsite : site ∈ root.sites [] := by simp [hsites]
    have hmem := Node.mem_of_mem_ancestors hsite (List.mem_of_find?_eq_some hbraced)
    have hkind := List.find?_some hbraced
    rw [Node.isBraced, Bool.and_eq_true] at hkind
    exact ⟨by simpa using hmem, hkind.1⟩
  · have hmem := List.mem_reverse.1 (List.mem_of_find?_eq_some hopen)
    have hkind := List.find?_some hopen
    rw [Node.isOpen, Bool.and_eq_true] at hkind
    refine ⟨?_, hkind.1⟩
    rw [← Node.map_node_sites [] root, hsites, List.map_append]
    exact List.mem_append_left _ hmem

/-- A site is told from the others by how many there are before it. -/
theorem Site.exists_split {α : Type} (sites : List Site) (i : Nat) (f : Site → α) {a : α}
    (h : sites[i]?.map f = some a) :
    ∃ site later, sites = sites.take i ++ site :: later ∧ f site = a := by
  obtain ⟨site, hsite, hf⟩ := Option.map_eq_some_iff.1 h
  obtain ⟨hi, rfl⟩ := List.getElem?_eq_some_iff.1 hsite
  refine ⟨sites[i], sites.drop (i + 1), ?_, hf⟩
  rw [← List.drop_eq_getElem_cons hi, List.take_append_drop]

end Syntax

/-- The full name of what is declared in a namespace, or in none. -/
def under : Option String → String → String
  | some space, short => space ++ "\\" ++ short
  | none, short => short

namespace SourceFile

variable (file : SourceFile)

/-- The name that a definition gives to its namespace. -/
def label? (definition : Node) : Option String :=
  (definition.child? .name).map fun name => Text.trimStart (· == '\\') (file.text name)

/-- The first namespace of the file. -/
def firstSpace? : Option String :=
  (file.root.preorder.find? Node.isNamespace).bind file.label?

/-- The declarations that have the key of a name below the first namespace of the file. -/
def keptAs (full : String) : List Node :=
  (file.root.preorder.filter Node.isDeclaration).filter fun n =>
    (n.declaredName? file.source).any fun short =>
      classKey (under file.firstSpace? short) == classKey full

/-- Namespaces have names that are not empty, and short names hold no backslash. -/
structure Plain : Prop where
  spaces : ∀ n ∈ file.root.preorder, n.isNamespace = true → file.label? n ≠ some ""
  shorts : ∀ n ∈ file.root.preorder, n.isDeclaration = true →
    ∀ short, n.declaredName? file.source = some short → '\\' ∉ short.toList

variable {file}

theorem mem_keptAs {n : Node} {full : String} : n ∈ file.keptAs full ↔
    n ∈ file.root.preorder ∧ n.isDeclaration = true ∧
      ∃ short, n.declaredName? file.source = some short ∧
        classKey (under file.firstSpace? short) = classKey full := by
  simp only [keptAs, List.mem_filter, Option.any_eq_true, beq_iff_eq, and_assoc]

theorem qualify_eq (hnames : file.names = .ofTree file.source file.root) (short : String) :
    file.names.qualify short = under file.firstSpace? short := by
  have hlabel : file.label? = fun definition : Node => (definition.child? .name).bind fun name =>
      some (Text.trimStart (· == '\\') (name.text file.source)) := by
    funext definition
    rw [label?, Option.map_eq_bind]
    rfl
  have hhome : file.names.home = file.firstSpace? := by
    rw [hnames, firstSpace?, hlabel, Syntax.Names.ofTree, Node.findFirst_eq_find_preorder]
    rfl
  rw [Syntax.Names.qualify, hhome]
  cases file.firstSpace? <;> rfl

end SourceFile

/-! ## Keys of full names -/

/-- A namespace whose name begins with something other than a backslash, or none. -/
def Proper (space : Option String) : Prop :=
  ∀ name ∈ space, ∃ c cs, name.toList = c :: cs ∧ c ≠ '\\'

theorem SourceFile.proper_label? {file : SourceFile} {definition : Node}
    (h : file.label? definition ≠ some "") : Proper (file.label? definition) := by
  intro name hname
  have hne : name ≠ "" := fun hempty => h (hempty ▸ Option.mem_def.1 hname)
  obtain ⟨node, -, htrim⟩ := Option.map_eq_some_iff.1 (Option.mem_def.1 hname)
  obtain hempty | ⟨c, cs, hcs, hc⟩ := Text.trimStart_cases (· == '\\') (file.text node)
  · exact absurd (htrim.symm.trans hempty) hne
  · exact ⟨c, cs, htrim ▸ hcs, by simpa using hc⟩

theorem SourceFile.Plain.proper_bind {file : SourceFile} (h : file.Plain) {found : Option Node}
    (hmem : ∀ definition, found = some definition →
      definition ∈ file.root.preorder ∧ definition.isNamespace = true) :
    Proper (found.bind file.label?) := by
  cases found with
  | none => exact fun _ hname => nomatch hname
  | some definition =>
    obtain ⟨hdefinition, hkind⟩ := hmem definition rfl
    exact proper_label? (h.spaces definition hdefinition hkind)

theorem classKey_under_some {name : String} (h : Proper (some name)) (short : String) :
    classKey (under (some name) short) =
      Text.foldAscii name ++ "\\" ++ Text.foldAscii short := by
  obtain ⟨c, cs, hcs, hc⟩ := h name rfl
  have htrim : Text.trimStart (· == '\\') (name ++ "\\" ++ short) = name ++ "\\" ++ short := by
    refine Text.trimStart_eq_self fun d hd => ?_
    obtain rfl : c = d := by simpa [hcs] using hd
    simpa using hc
  rw [under, classKey, htrim, Text.foldAscii_append, Text.foldAscii_append]
  rfl

theorem classKey_of_not_mem {short : String} (h : '\\' ∉ short.toList) :
    classKey short = Text.foldAscii short := by
  rw [classKey, Text.trimStart_eq_self]
  intro c hc
  rw [beq_eq_false_iff_ne]
  rintro rfl
  exact h (List.mem_of_mem_head? hc)

theorem classKey_under_congr {a b : Option String} (h : a.map Text.foldAscii = b.map Text.foldAscii)
    (short : String) : classKey (under a short) = classKey (under b short) := by
  refine classKey_congr ?_
  cases a with
  | none =>
    cases b with
    | none => rfl
    | some b => cases h
  | some a =>
    cases b with
    | none => cases h
    | some b =>
      rw [Option.map_some, Option.map_some, Option.some_inj] at h
      simp only [under, Text.foldAscii_append, h]

/-- **Full names have one key just if their namespaces and their short names agree up to case.** -/
theorem classKey_under_eq_iff {a b : Option String} (ha : Proper a) (hb : Proper b)
    {s t : String} (hs : '\\' ∉ s.toList) (ht : '\\' ∉ t.toList) :
    classKey (under a s) = classKey (under b t) ↔
      a.map Text.foldAscii = b.map Text.foldAscii ∧ Text.foldAscii s = Text.foldAscii t := by
  have hs' := mt (Text.backslash_mem_foldAscii s).1 hs
  have ht' := mt (Text.backslash_mem_foldAscii t).1 ht
  -- a name in a namespace has a backslash in its key, a name in none has not
  have hapart : ∀ (space word : String) {other : String}, '\\' ∉ other.toList →
      other ≠ space ++ "\\" ++ word := by
    rintro space word other hother rfl
    exact hother (by simp)
  cases a with
  | none =>
    cases b with
    | none => simp [under, classKey_of_not_mem hs, classKey_of_not_mem ht]
    | some b =>
      rw [classKey_under_some hb, under, classKey_of_not_mem hs]
      simpa using hapart _ _ hs'
  | some a =>
    cases b with
    | none =>
      rw [classKey_under_some ha, under, classKey_of_not_mem ht]
      simpa using (hapart _ _ ht').symm
    | some b =>
      rw [classKey_under_some ha, classKey_under_some hb, Option.map_some, Option.map_some,
        Option.some_inj]
      refine ⟨fun h => ?_, fun h => by rw [h.1, h.2]⟩
      have hlast : ∀ (space : String) {word : String}, '\\' ∉ word.toList →
          Text.afterLast (· == '\\') (space ++ "\\" ++ word) = word := by
        intro space word hword
        refine Text.afterLast_append (c := '\\') (by decide) rfl space fun c hc => ?_
        rw [beq_eq_false_iff_ne]
        rintro rfl
        exact hword hc
      have hshort : Text.foldAscii s = Text.foldAscii t := by
        rw [← hlast (Text.foldAscii a) hs', h, hlast _ ht']
      rw [hshort, ← String.toList_inj] at h
      refine ⟨String.toList_inj.1 ?_, hshort⟩
      simpa using h

namespace ClassIndex

section

variable {file : SourceFile} (hnames : file.names = .ofTree file.source file.root)

include hnames

/-- The first namespace of the file counts for all declarations. -/
theorem declarations_eq : declarations file =
    (file.root.preorder.filter Node.isDeclaration).filterMap fun n =>
      (n.declaredName? file.source).map fun short =>
        (under file.firstSpace? short, describe file n) := by
  rw [declarations, Node.findAll_eq_filter_preorder]
  simp only [SourceFile.qualify_eq hnames]
  rfl

/-- **What the index says after a file was added**: the last declaration with the key counts. -/
theorem get?_addFile_eq (index : ClassIndex) (full : String) :
    (index.addFile file).get? full =
      ((file.keptAs full).getLast?.map (describe file)).or (index.get? full) := by
  have hlast : lastNamed (declarations file) full =
      (file.keptAs full).getLast?.map (describe file) := by
    rw [lastNamed, declarations_eq hnames, ← List.filterMap_reverse, List.find?_filterMap,
      SourceFile.keptAs, List.getLast?_eq_head?_reverse, ← List.filter_reverse (l := List.filter _ _),
      List.head?_filter]
    simp only [Option.any_map]
    cases hfound : (file.root.preorder.filter Node.isDeclaration).reverse.find? fun n =>
        (n.declaredName? file.source).any fun short =>
          classKey (under file.firstSpace? short) == classKey full with
    | none => rfl
    | some n =>
      have hany := List.find?_some hfound
      obtain ⟨short, hshort, -⟩ := (Option.any_eq_true _ _).1 hany
      simp [hshort]
  rw [addFile, get?_insertAll, hlast]

end

/-- **Every class and trait of a file is kept under the first namespace of the file.**  After a file
    was added the index says about a name what the last declaration with its key says, where the
    first namespace counts for all of them.  So a declaration is kept under its own namespace if
    this is the first one up to case.  If it is not, then the file adds nothing under that name. -/
theorem first_namespace_for_all (index : ClassIndex) {file : SourceFile} {path : Path}
    {text : String} (hfile : file = .parse path text) :
    (∀ full, (index.addFile file).get? full =
      ((file.keptAs full).getLast?.map (describe file)).or (index.get? full)) ∧
    ∀ (earlier : List Site) (site : Site) (later : List Site) (short : String),
      file.root.sites [] = earlier ++ site :: later →
      site.node.isDeclaration = true →
      site.node.declaredName? file.source = some short →
      let own := (site.home? earlier).bind file.label?
      site.node ∈ file.keptAs (under file.firstSpace? short) ∧
      (own.map Text.foldAscii = file.firstSpace?.map Text.foldAscii →
        site.node ∈ file.keptAs (under own short)) ∧
      (own.map Text.foldAscii ≠ file.firstSpace?.map Text.foldAscii → file.Plain →
        file.keptAs (under own short) = []) := by
  have hnames : file.names = .ofTree file.source file.root := by
    rw [hfile, SourceFile.names_parse]
  refine ⟨get?_addFile_eq hnames index, ?_⟩
  intro earlier site later short hsites hdeclaration hshort own
  have hnode : site.node ∈ file.root.preorder := by
    rw [← Node.map_node_sites [] file.root, hsites]
    simp
  refine ⟨SourceFile.mem_keptAs.2 ⟨hnode, hdeclaration, short, hshort, rfl⟩, fun hsame => ?_,
    fun hother hplain => ?_⟩
  · exact SourceFile.mem_keptAs.2
      ⟨hnode, hdeclaration, short, hshort, (classKey_under_congr hsame short).symm⟩
  · refine List.eq_nil_iff_forall_not_mem.2 fun n hn => hother ?_
    obtain ⟨hmem, hdeclares, other, hname, hkey⟩ := SourceFile.mem_keptAs.1 hn
    have hfirst : Proper file.firstSpace? :=
      hplain.proper_bind fun _ h => ⟨List.mem_of_find?_eq_some h, List.find?_some h⟩
    have hown : Proper own := hplain.proper_bind fun _ h => Site.mem_of_home? hsites h
    exact ((classKey_under_eq_iff hfirst hown (hplain.shorts n hmem hdeclares other hname)
      (hplain.shorts site.node hnode hdeclaration short hshort)).1 hkey).1.symm

section

/-- Whether a site is a declaration, its short name and its namespace, given how many sites there are
    before it. -/
def placement (file : SourceFile) (i : Nat) (site : Site) : Bool × Option String × Option String :=
  (site.node.isDeclaration, site.node.declaredName? file.source,
    (site.home? ((file.root.sites []).take i)).bind file.label?)

/-- Three namespaces, of which the second is the first in another case and the third has no name. -/
def threeSpaces : SourceFile :=
  .parse ⟨"P.php"⟩ ("<?php namespace A \x7bclass X \x7b\x7d\x7d namespace a \x7btrait Y \x7b\x7d\x7d" ++
    " namespace \x7bclass Z \x7b\x7d\x7d")

theorem plain_threeSpaces : threeSpaces.Plain := by
  have hall : threeSpaces.root.preorder.all (fun n => threeSpaces.label? n != some "" &&
      (!n.isDeclaration || (n.declaredName? threeSpaces.source).all fun short =>
        !short.toList.contains '\\')) = true := by
    decide +kernel
  have hnode : ∀ n ∈ threeSpaces.root.preorder, threeSpaces.label? n ≠ some "" ∧
      (n.isDeclaration = true → ∀ short, n.declaredName? threeSpaces.source = some short →
        '\\' ∉ short.toList) := by
    intro n hn
    have h := List.all_eq_true.1 hall n hn
    rw [Bool.and_eq_true, bne_iff_ne] at h
    refine ⟨h.1, fun hdeclares short hshort => ?_⟩
    simpa [hdeclares, hshort] using h.2
  exact ⟨fun n hn _ => (hnode n hn).1, fun n hn => (hnode n hn).2⟩

/-- The trait is found in its own namespace, and the last class is not. -/
theorem first_namespace_for_all_three :
    (empty.addFile threeSpaces).get? "a\\Y" ≠ none ∧
      (empty.addFile threeSpaces).get? "Z" = none := by
  have hplaces : (threeSpaces.firstSpace?,
      (threeSpaces.root.sites [])[21]?.map (placement threeSpaces 21),
      (threeSpaces.root.sites [])[32]?.map (placement threeSpaces 32)) =
        (some "A", some (true, some "Y", some "a"), some (true, some "Z", none)) := by
    decide +kernel
  simp only [Prod.mk.injEq] at hplaces
  obtain ⟨hfirst, hplace, hplace'⟩ := hplaces
  have hfolded : Text.foldAscii "a" = Text.foldAscii "A" := by decide
  obtain ⟨hget, hsites⟩ := first_namespace_for_all empty (rfl : threeSpaces = .parse _ _)
  obtain ⟨own, later, hsplit, hown⟩ := Site.exists_split _ 21 _ hplace
  obtain ⟨other, later', hsplit', hother⟩ := Site.exists_split _ 32 _ hplace'
  simp only [placement, Prod.mk.injEq] at hown hother
  obtain ⟨-, hkept, -⟩ := hsites _ own later "Y" hsplit hown.1 hown.2.1
  obtain ⟨-, -, hnone⟩ := hsites _ other later' "Z" hsplit' hother.1 hother.2.1
  simp only [hown.2.2, hother.2.2, hfirst, Option.map_some, hfolded] at hkept hnone
  have hmem : own.node ∈ threeSpaces.keptAs "a\\Y" := hkept trivial
  have hnil : threeSpaces.keptAs "Z" = [] := hnone nofun plain_threeSpaces
  constructor
  · simp [hget, List.ne_nil_of_mem hmem]
  · rw [hget, hnil]
    rfl

/-- The class of the second namespace is kept in the first. -/
theorem second_namespace_misplaced :
    let file := SourceFile.parse ⟨"P.php"⟩
      "<?php namespace A; class X\x7b\x7d namespace B; class Y\x7b\x7d"
    file.hasErrors = false ∧
    (∃ earlier site later, file.root.sites [] = earlier ++ site :: later ∧
      site.node.isDeclaration = true ∧ site.node.declaredName? file.source = some "Y" ∧
      (site.home? earlier).bind file.label? = some "B") ∧
    (empty.addFile file).get? "B\\Y" = none ∧ (empty.addFile file).get? "A\\Y" = some {} := by
  intro file
  have hfacts : (file.hasErrors, (file.root.sites [])[18]?.map (placement file 18),
      (empty.addFile file).get? "B\\Y", (empty.addFile file).get? "A\\Y") =
        (false, some (true, some "Y", some "B"), none, some {}) := by
    decide +kernel
  simp only [Prod.mk.injEq] at hfacts
  obtain ⟨hparsed, hplace, hown, hfirst⟩ := hfacts
  obtain ⟨site, later, hsplit, hsite⟩ := Site.exists_split _ 18 _ hplace
  simp only [placement, Prod.mk.injEq] at hsite
  exact ⟨hparsed, ⟨_, site, later, hsplit, hsite⟩, hown, hfirst⟩

end

end ClassIndex

end LayerLint
