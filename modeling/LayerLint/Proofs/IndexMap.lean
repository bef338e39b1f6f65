import LayerLint.Proofs.ClassIndex
import LayerLint.Proofs.DeclaredClasses
import Mathlib

/-!
# The index as a finite map

Classes come into the index one by one, from files and from configurations.  Whatever the order, the
index is a map from folded names to what was said last.

* `IndexStep`, `ClassIndex.build` — the ways to fill an index, and what a series of them gives;
* `IndexStep.Declares` — what a step says about which classes, without the functions that collect it;
* `ClassIndex.entries_insertAll` — what was added last stands first, and nothing stands twice;
* `ClassIndex.folded` — the index with all names in it in the form of keys;
* `ClassIndex.ancestorDeclares_folded` — the search sees names in that form only;
* `IndexStep.Variant` — the same step with names in another case and with more backslashes;
* `ClassIndex.finite_map_of_folded_names` — **lookups, size, methods, repetition, and another
  spelling of all names.**
-/

set_option autoImplicit false

namespace LayerLint

/-! ## Names -/

namespace Text

theorem foldAscii_foldAscii (s : String) : foldAscii (foldAscii s) = foldAscii s := by
  simp [foldAscii, Function.comp_def]

theorem trimStart_trimStart (p : Char → Bool) (s : String) :
    trimStart p (trimStart p s) = trimStart p s := by
  rw [trimStart, trimStart, String.toList_ofList, List.dropWhile_idempotent]

end Text

theorem classKey_trimStart (name : String) :
    classKey (Text.trimStart (· == '\\') name) = classKey name := by
  rw [classKey, Text.trimStart_trimStart, classKey]

theorem classKey_classKey (name : String) : classKey (classKey name) = classKey name := by
  have hkey : classKey name = Text.trimStart (· == '\\') (Text.foldAscii name) := by
    rw [classKey, Text.foldAscii_trimStart]
  calc classKey (classKey name)
      = classKey (Text.foldAscii name) := by rw [hkey, classKey_trimStart]
    _ = classKey name := classKey_congr (Text.foldAscii_foldAscii name)

/-- The second text is the first with some of its ASCII letters in the other case. -/
def CaseVariant (s t : String) : Prop :=
  List.Forall₂ (fun c d : Char => d = c ∨ d = c.toLower ∨ d = c.toUpper) s.toList t.toList

instance (s t : String) : Decidable (CaseVariant s t) :=
  inferInstanceAs (Decidable (List.Forall₂ _ _ _))

/-- The second name is the first with some of its ASCII letters in the other case, and with
    backslashes before it. -/
def NameVariant (s t : String) : Prop :=
  ∃ (count : Nat) (rest : String), CaseVariant s rest ∧
    t = String.ofList (List.replicate count '\\') ++ rest

theorem map_eq_of_forall₂ {α β : Type} {R : α → α → Prop} {l l' : List α} (h : List.Forall₂ R l l')
    {f : α → β} (hf : ∀ {a b}, R a b → f b = f a) : l'.map f = l.map f := by
  induction h with
  | nil => rfl
  | cons hab _ ih => rw [List.map_cons, List.map_cons, hf hab, ih]

theorem CaseVariant.foldAscii_eq {s t : String} (h : CaseVariant s t) :
    Text.foldAscii t = Text.foldAscii s := by
  have hlower : t.toList.map Char.toLower = s.toList.map Char.toLower := by
    refine map_eq_of_forall₂ h ?_
    rintro c d (rfl | rfl | rfl)
    · rfl
    · exact Char.toLower_toLower_eq_toLower c
    · exact Char.toLower_toUpper_eq_toLower c
  rw [Text.foldAscii, hlower, Text.foldAscii]

theorem NameVariant.classKey_eq {s t : String} (h : NameVariant s t) : classKey t = classKey s := by
  obtain ⟨count, rest, hrest, rfl⟩ := h
  have htrim : Text.trimStart (· == '\\') (String.ofList (List.replicate count '\\') ++ rest) =
      Text.trimStart (· == '\\') rest := by
    rw [Text.trimStart, String.toList_append, String.toList_ofList,
      List.dropWhile_append_of_pos (by simp), Text.trimStart]
  rw [← classKey_trimStart, htrim, classKey_trimStart]
  exact classKey_congr hrest.foldAscii_eq

/-! ## Steps -/

/-- A way to add classes to an index. -/
inductive IndexStep where
  | insert (name : String) (parent : Option String) (methods traits : List String)
  | addFile (file : SourceFile)
  | seed (config : Config)

namespace IndexStep

/-- What a step says about which classes, in order. -/
def declared : IndexStep → List (String × ClassInfo)
  | insert name parent methods traits =>
    [(name, { ClassInfo.ofMethods parent methods with traits })]
  | addFile file => ClassIndex.declarations file
  | seed config => ClassIndex.knownClasses config

/-- What a step says about which classes: the one that is inserted, with the names of its methods in
    small letters, those of a file, or those of a configuration. -/
inductive Declares : IndexStep → List (String × ClassInfo) → Prop
  | insert {name : String} {parent : Option String} {methods traits : List String}
    {info : ClassInfo} (hparent : info.parent = parent) (hmethods : FoldsTo methods info.methods)
    (htraits : info.traits = traits) : Declares (.insert name parent methods traits) [(name, info)]
  | addFile {file : SourceFile} {classes : List (String × ClassInfo)}
    (h : file.Declares classes) : Declares (.addFile file) classes
  | seed {config : Config} {classes : List (String × ClassInfo)}
    (h : config.Declares classes) : Declares (.seed config) classes

theorem declares_declared (step : IndexStep) : step.Declares step.declared := by
  cases step with
  | insert name parent methods traits => exact .insert rfl (foldsTo_eraseDups methods) rfl
  | addFile file => exact .addFile file.declares_declarations
  | seed config => exact .seed config.declares_knownClasses

/-- The index after a step. -/
def apply (index : ClassIndex) : IndexStep → ClassIndex
  | insert name parent methods traits =>
    index.insert name { ClassInfo.ofMethods parent methods with traits }
  | addFile file => index.addFile file
  | seed config => index.seed config

theorem apply_eq (index : ClassIndex) (step : IndexStep) :
    step.apply index = index.insertAll step.declared := by
  cases step <;> rfl

/-- All that a step says about methods is in small letters. -/
theorem not_isUpper_of_mem (step : IndexStep) : ∀ c ∈ step.declared, ∀ method ∈ c.2.methods,
    ∀ letter ∈ method.toList, letter.isUpper = false := by
  have hfolded : ∀ (methods : List String), ∀ method ∈ (methods.map Text.foldAscii).eraseDups,
      ∀ letter ∈ method.toList, letter.isUpper = false := by
    intro methods method hmethod letter hletter
    rw [List.mem_eraseDups] at hmethod
    obtain ⟨written, -, rfl⟩ := List.mem_map.1 hmethod
    rw [Text.foldAscii, String.toList_ofList] at hletter
    obtain ⟨original, -, rfl⟩ := List.mem_map.1 hletter
    exact Char.isUpper_toLower_eq_false original
  intro c hc
  cases step with
  | insert name parent methods traits =>
    obtain rfl := List.mem_singleton.1 hc
    exact hfolded _
  | addFile file =>
    obtain ⟨n, -, hn⟩ := List.mem_filterMap.1 hc
    obtain ⟨short, -, rfl⟩ := Option.map_eq_some_iff.1 hn
    exact hfolded _
  | seed config =>
    obtain ⟨known, -, rfl⟩ := List.mem_map.1 hc
    exact hfolded _

end IndexStep

namespace ClassIndex

/-- The index after a series of steps. -/
def build (steps : List IndexStep) : ClassIndex :=
  steps.foldl IndexStep.apply empty

/-! ## Entries -/

section Entries

variable (index : ClassIndex)

theorem insertAll_concat (classes : List (String × ClassInfo)) (c : String × ClassInfo) :
    index.insertAll (classes ++ [c]) = (index.insertAll classes).insert c.1 c.2 := by
  simp [insertAll]

theorem foldl_apply : ∀ (steps : List IndexStep) (index : ClassIndex),
    steps.foldl IndexStep.apply index = index.insertAll (steps.flatMap IndexStep.declared)
  | [], _ => rfl
  | step :: steps, index => by
    rw [List.foldl_cons, foldl_apply steps, IndexStep.apply_eq, List.flatMap_cons, insertAll,
      insertAll, insertAll, List.foldl_append]

/-- What a series of steps says is added class by class. -/
theorem build_eq (steps : List IndexStep) :
    build steps = empty.insertAll (steps.flatMap IndexStep.declared) :=
  foldl_apply steps empty

/-- One of several classes has a key. -/
def named (classes : List (String × ClassInfo)) (key : String) : Bool :=
  classes.any fun c => classKey c.1 == key

/-- **What is added stands before what was there, except for what it replaces.** -/
theorem entries_insertAll (classes : List (String × ClassInfo)) :
    (index.insertAll classes).entries =
      (empty.insertAll classes).entries ++ index.entries.filter fun e => !named classes e.1 := by
  induction classes using List.reverseRecOn with
  | nil => simp [insertAll, empty, named]
  | append_singleton classes c ih =>
    have hkeep : ∀ e : String × ClassInfo, (e.1 != classKey c.1 && !named classes e.1) =
        !named (classes ++ [c]) e.1 := by
      intro e
      simp only [named, List.any_append, List.any_cons, List.any_nil, Bool.or_false, Bool.not_or,
        bne, BEq.comm (a := e.1), Bool.and_comm]
    simp only [insertAll_concat, insert, ih, List.filter_append, List.filter_filter, hkeep,
      List.cons_append]

/-- Every entry was added under the key of its name. -/
theorem exists_of_mem_entries {classes : List (String × ClassInfo)} {e : String × ClassInfo}
    (he : e ∈ (empty.insertAll classes).entries) : ∃ c ∈ classes, e = (classKey c.1, c.2) := by
  induction classes using List.reverseRecOn with
  | nil => cases he
  | append_singleton classes c ih =>
    rw [insertAll_concat, insert, List.mem_cons, List.mem_filter] at he
    obtain rfl | ⟨he, -⟩ := he
    · exact ⟨c, by simp, rfl⟩
    · obtain ⟨earlier, hmem, heq⟩ := ih he
      exact ⟨earlier, List.mem_append_left _ hmem, heq⟩

/-- **Adding the same classes again changes nothing.** -/
theorem insertAll_insertAll (classes : List (String × ClassInfo)) :
    (index.insertAll classes).insertAll classes = index.insertAll classes := by
  have hnew : (empty.insertAll classes).entries.filter (fun e => !named classes e.1) = [] := by
    refine List.filter_eq_nil_iff.2 fun e he => ?_
    obtain ⟨c, hc, rfl⟩ := exists_of_mem_entries he
    have hnamed : named classes (classKey c.1) = true := List.any_eq_true.2 ⟨c, hc, by simp⟩
    simp [hnamed]
  have hentries : ((index.insertAll classes).insertAll classes).entries =
      (index.insertAll classes).entries := by
    rw [entries_insertAll (index.insertAll classes), entries_insertAll index, List.filter_append,
      hnew, List.filter_filter]
    simp
  exact congrArg mk hentries

/-! ## Keys -/

/-- The keys of the index. -/
def keys : List String :=
  index.entries.map Prod.fst

theorem keys_insert (name : String) (info : ClassInfo) :
    (index.insert name info).keys =
      classKey name :: index.keys.filter fun key => key != classKey name := by
  simp [keys, insert, List.filter_map, Function.comp_def]

variable {index}

theorem nodup_keys_insertAll (h : index.keys.Nodup) (classes : List (String × ClassInfo)) :
    (index.insertAll classes).keys.Nodup := by
  induction classes using List.reverseRecOn with
  | nil => exact h
  | append_singleton classes c ih =>
    rw [insertAll_concat, keys_insert, List.nodup_cons]
    exact ⟨by simp, ih.filter _⟩

theorem mem_keys_insertAll (classes : List (String × ClassInfo)) (key : String) :
    key ∈ (empty.insertAll classes).keys ↔ key ∈ classes.map fun c => classKey c.1 := by
  induction classes using List.reverseRecOn with
  | nil => simp [insertAll, keys, empty]
  | append_singleton classes c ih =>
    rw [insertAll_concat, keys_insert, List.mem_cons, List.mem_filter, ih, List.map_append,
      List.mem_append, List.map_singleton, List.mem_singleton]
    by_cases hkey : key = classKey c.1
    · simp [hkey]
    · simp [hkey]

/-- **The index has one entry for each folded name.** -/
theorem size_insertAll (classes : List (String × ClassInfo)) :
    (empty.insertAll classes).size = (classes.map fun c => classKey c.1).toFinset.card := by
  have hnodup : (empty.insertAll classes).keys.Nodup :=
    nodup_keys_insertAll (by simp [keys, empty]) classes
  have hkeys : (empty.insertAll classes).keys.toFinset =
      (classes.map fun c => classKey c.1).toFinset := by
    ext key
    rw [List.mem_toFinset, List.mem_toFinset, mem_keys_insertAll]
  rw [← hkeys, List.toFinset_card_of_nodup hnodup, keys, List.length_map, size]

end Entries

/-! ## Folded names

All names that the search follows may be put into the form of keys at once.  Two indexes that agree
after that cannot be told apart.
-/

end ClassIndex

/-- What is known about a class, with the names of other classes in the form of keys. -/
def ClassInfo.folded (info : ClassInfo) : ClassInfo :=
  { info with parent := info.parent.map classKey, traits := info.traits.map classKey }

namespace ClassIndex

/-- The index with all names in the form of keys. -/
def folded (index : ClassIndex) : ClassIndex :=
  ⟨index.entries.map fun e => (e.1, e.2.folded)⟩

/-- A declaration with all names in the form of keys. -/
def foldedDeclaration (c : String × ClassInfo) : String × ClassInfo :=
  (classKey c.1, c.2.folded)

section Folded

variable (index : ClassIndex) (method : String)

theorem folded_insertAll (classes : List (String × ClassInfo)) :
    (index.insertAll classes).folded = index.folded.insertAll (classes.map foldedDeclaration) := by
  induction classes using List.reverseRecOn with
  | nil => rfl
  | append_singleton classes c ih =>
    rw [insertAll_concat, List.map_append, List.map_singleton, insertAll_concat, ← ih]
    simp [folded, insert, foldedDeclaration, classKey_classKey, List.filter_map, Function.comp_def]

@[simp] theorem size_folded : index.folded.size = index.size := by
  simp [size, folded]

@[simp] theorem get?_folded (name : String) :
    index.folded.get? name = (index.get? name).map ClassInfo.folded := by
  have hlookup : ∀ entries : List (String × ClassInfo),
      (entries.map fun e => (e.1, e.2.folded)).lookup (classKey name) =
        (entries.lookup (classKey name)).map ClassInfo.folded := by
    intro entries
    induction entries with
    | nil => rfl
    | cons e entries ih =>
      rw [List.map_cons, List.lookup_cons, List.lookup_cons, ih]
      cases classKey name == e.1 <;> rfl
  exact hlookup index.entries

/-- A search that looks at keys only may be given keys. -/
theorem askTraits_map {ask ask' : List String → String → Option Bool × List String}
    (h : ∀ visited name, ask' visited (classKey name) = ask visited name) :
    ∀ (names visited : List String),
      askTraits ask' visited (names.map classKey) = askTraits ask visited names
  | [], _ => rfl
  | name :: rest, visited => by
    rw [List.map_cons, askTraits_cons, askTraits_cons, h, askTraits_map h rest]

theorem traitDeclares_congr (fuel : Nat) (visited : List String) {a b : String}
    (h : classKey a = classKey b) :
    traitDeclares index method fuel visited a = traitDeclares index method fuel visited b := by
  cases fuel with
  | zero => rfl
  | succ fuel => simp only [traitDeclares, h, get?_congr index h]

theorem traitDeclares_folded : ∀ (fuel : Nat) (visited : List String) (name : String),
    traitDeclares index.folded method fuel visited name =
      traitDeclares index method fuel visited name
  | 0, _, _ => rfl
  | fuel + 1, visited, name => by
    have hask : ∀ visited name, traitDeclares index.folded method fuel visited (classKey name) =
        traitDeclares index method fuel visited name := fun visited name =>
      (traitDeclares_folded fuel visited _).trans
        (traitDeclares_congr index method fuel visited (classKey_classKey name))
    simp only [traitDeclares, get?_folded]
    cases index.get? name with
    | none => rfl
    | some info => simp only [Option.map_some, ClassInfo.folded, askTraits_map hask]

theorem anyTraitDeclares_folded : ∀ names : List String,
    anyTraitDeclares index.folded method (names.map classKey) = anyTraitDeclares index method names
  | [] => rfl
  | name :: rest => by
    rw [List.map_cons, anyTraitDeclares_cons, anyTraitDeclares_cons, anyTraitDeclares_folded rest,
      traitDeclares_folded, size_folded,
      traitDeclares_congr index method _ _ (classKey_classKey name)]

theorem chainDeclares_congr (fuel : Nat) (visited : List String) (complete : Bool) {a b : String}
    (h : classKey a = classKey b) :
    chainDeclares index method fuel visited complete a =
      chainDeclares index method fuel visited complete b := by
  cases fuel with
  | zero => rfl
  | succ fuel => simp only [chainDeclares, h, get?_congr index h]

theorem chainDeclares_folded : ∀ (fuel : Nat) (visited : List String) (complete : Bool)
    (name : String), chainDeclares index.folded method fuel visited complete name =
      chainDeclares index method fuel visited complete name
  | 0, _, _, _ => rfl
  | fuel + 1, visited, complete, name => by
    have hnext : ∀ visited complete name,
        chainDeclares index.folded method fuel visited complete (classKey name) =
          chainDeclares index method fuel visited complete name := fun visited complete name =>
      (chainDeclares_folded fuel visited complete _).trans
        (chainDeclares_congr index method fuel visited complete (classKey_classKey name))
    simp only [chainDeclares, get?_folded]
    cases index.get? name with
    | none => rfl
    | some info =>
      simp only [Option.map_some, ClassInfo.folded, anyTraitDeclares_folded]
      cases info.parent with
      | none => rfl
      | some parent => simp only [Option.map_some, hnext]

/-- **The search sees names in the form of keys only.** -/
theorem ancestorDeclares_folded (name : String) :
    index.folded.ancestorDeclares name method = index.ancestorDeclares name method := by
  rw [ancestorDeclares, ancestorDeclares, size_folded, chainDeclares_folded]

theorem ancestorDeclares_congr {a b m n : String} (hname : classKey a = classKey b)
    (hmethod : Text.foldAscii m = Text.foldAscii n) :
    index.ancestorDeclares a m = index.ancestorDeclares b n := by
  rw [ancestorDeclares, ancestorDeclares, hmethod, chainDeclares_congr index _ _ _ _ hname]

end Folded

end ClassIndex

/-! ## Other spellings -/

/-- The second class is the first with names in another spelling. -/
structure KnownClass.Variant (known other : KnownClass) : Prop where
  name : NameVariant known.name other.name
  parent : Option.Rel NameVariant known.parent other.parent
  methods : List.Forall₂ CaseVariant known.methods other.methods

/-- The second step is the first with names in another spelling.  Files are what they are. -/
inductive IndexStep.Variant : IndexStep → IndexStep → Prop
  | insert {name name' : String} {parent parent' : Option String}
    {methods methods' traits traits' : List String} (hname : NameVariant name name')
    (hparent : Option.Rel NameVariant parent parent')
    (hmethods : List.Forall₂ CaseVariant methods methods')
    (htraits : List.Forall₂ NameVariant traits traits') :
    Variant (.insert name parent methods traits) (.insert name' parent' methods' traits')
  | addFile (file : SourceFile) : Variant (.addFile file) (.addFile file)
  | seed {config config' : Config}
    (h : List.Forall₂ KnownClass.Variant config.knownClasses config'.knownClasses) :
    Variant (.seed config) (.seed config')

theorem map_classKey_eq {parent parent' : Option String}
    (h : Option.Rel NameVariant parent parent') :
    parent'.map classKey = parent.map classKey := by
  cases h with
  | none => rfl
  | some hname => rw [Option.map_some, Option.map_some, hname.classKey_eq]

/-- A step in another spelling says the same about the same classes. -/
theorem IndexStep.Variant.declared_eq {step other : IndexStep} (h : step.Variant other) :
    other.declared.map ClassIndex.foldedDeclaration =
      step.declared.map ClassIndex.foldedDeclaration := by
  cases h with
  | insert hname hparent hmethods htraits =>
    have htraits' := map_eq_of_forall₂ htraits NameVariant.classKey_eq
    have hmethods' := map_eq_of_forall₂ hmethods CaseVariant.foldAscii_eq
    simp only [declared, List.map_singleton, ClassIndex.foldedDeclaration, ClassInfo.folded,
      ClassInfo.ofMethods, hname.classKey_eq, map_classKey_eq hparent, hmethods', htraits']
  | addFile file => rfl
  | seed h =>
    simp only [declared, ClassIndex.knownClasses, List.map_map]
    refine map_eq_of_forall₂ h fun h => ?_
    have hmethods' := map_eq_of_forall₂ h.methods CaseVariant.foldAscii_eq
    have hparent := map_classKey_eq h.parent
    simp [ClassIndex.foldedDeclaration, ClassInfo.folded, ClassInfo.ofMethods, h.name.classKey_eq,
      hmethods', Function.comp_def, classKey_trimStart, hparent]

namespace ClassIndex

theorem folded_build_eq {steps others : List IndexStep}
    (h : List.Forall₂ IndexStep.Variant steps others) :
    (build others).folded = (build steps).folded := by
  have hdeclared : (others.flatMap IndexStep.declared).map foldedDeclaration =
      (steps.flatMap IndexStep.declared).map foldedDeclaration := by
    rw [List.map_flatMap, List.map_flatMap, List.flatMap_def, List.flatMap_def,
      map_eq_of_forall₂ h IndexStep.Variant.declared_eq]
  rw [build_eq, build_eq, folded_insertAll, folded_insertAll, hdeclared]

/-- **The index is a finite map on folded names.**  What counts are the declarations of each step in
    turn: the class that it inserts, the classes and traits of its file as their nodes give them, or
    the entries of its configuration.  About a name the index says what the last declaration says
    whose name is the same up to leading backslashes and case.  It has one entry for each name up to
    these.  Its methods are in small letters.  A step done twice is a step done once.  And neither
    the case of names nor backslashes before names of classes, in the steps or in a question, make a
    difference to its size, to which classes and methods it knows, or to the search among
    ancestors. -/
theorem finite_map_of_folded_names (steps : List IndexStep) :
    (∀ step ∈ steps, step.Declares step.declared) ∧
    (∀ name, (build steps).get? name = lastNamed (steps.flatMap IndexStep.declared) name) ∧
    (build steps).size =
      ((steps.flatMap IndexStep.declared).map fun c => classKey c.1).toFinset.card ∧
    (∀ e ∈ (build steps).entries, ∀ method ∈ e.2.methods, ∀ letter ∈ method.toList,
      letter.isUpper = false) ∧
    (∀ step, build (steps ++ [step, step]) = build (steps ++ [step])) ∧
    ∀ others, List.Forall₂ IndexStep.Variant steps others →
      (build others).size = (build steps).size ∧
      ∀ name name', NameVariant name name' →
        ((build others).get? name').isSome = ((build steps).get? name).isSome ∧
        ((build others).get? name').map ClassInfo.methods =
          ((build steps).get? name).map ClassInfo.methods ∧
        ∀ method method', CaseVariant method method' →
          (build others).ancestorDeclares name' method' =
            (build steps).ancestorDeclares name method := by
  refine ⟨fun step _ => step.declares_declared, fun name => ?_, ?_, fun e he => ?_, fun step => ?_,
    fun others hothers => ?_⟩
  · have hempty : empty.get? name = none := rfl
    rw [build_eq, get?_insertAll, hempty, Option.or_none]
  · rw [build_eq, size_insertAll]
  · rw [build_eq] at he
    obtain ⟨c, hc, rfl⟩ := exists_of_mem_entries he
    obtain ⟨step, -, hstep⟩ := List.mem_flatMap.1 hc
    exact step.not_isUpper_of_mem c hstep
  · simp only [build, List.foldl_append, List.foldl_cons, List.foldl_nil, IndexStep.apply_eq,
      insertAll_insertAll]
  · have hfolded := folded_build_eq hothers
    refine ⟨?_, fun name name' hname => ?_⟩
    · rw [← size_folded, hfolded, size_folded]
    · have hget : ((build others).get? name').map ClassInfo.folded =
          ((build steps).get? name).map ClassInfo.folded := by
        rw [← get?_folded, hfolded, get?_congr _ hname.classKey_eq, get?_folded]
      refine ⟨?_, ?_, fun method method' hmethod => ?_⟩
      · simpa using congrArg Option.isSome hget
      · simpa [Function.comp_def, ClassInfo.folded] using congrArg (Option.map ClassInfo.methods) hget
      · rw [← ancestorDeclares_folded, hfolded, ancestorDeclares_folded]
        exact ancestorDeclares_congr _ hname.classKey_eq hmethod.foldAscii_eq

/-- A class with a trait from a file, its parent inserted, and the parent of that from a
    configuration; what is not in the file is spelled in two ways. -/
theorem finite_map_of_folded_names_respelled :
    let file := SourceFile.parse ⟨"B.php"⟩
      "<?php namespace A;class B extends P\x7buse T;function Run()\x7b\x7d\x7dtrait T\x7b\x7d"
    let steps : List IndexStep :=
      [.addFile file, .insert "A\\P" (some "A\\Q") ["walk"] [],
       .seed { knownClasses := [{ name := "A\\Q", methods := ["Stop"] }] }]
    let others : List IndexStep :=
      [.addFile file, .insert "\\a\\P" (some "\\\\A\\q") ["WALK"] [],
       .seed { knownClasses := [{ name := "\\A\\Q", methods := ["sTOP"] }] }]
    IndexStep.Declares (.addFile file)
        [("A\\B", { parent := some "A\\P", methods := ["run"], traits := ["A\\T"] }), ("A\\T", {})] ∧
      (build steps).get? "\\a\\b" =
        some { parent := some "A\\P", methods := ["run"], traits := ["A\\T"] } ∧
      (build steps).size = 4 ∧ (build others).size = 4 ∧
      (build steps).ancestorDeclares "A\\B" "stop" = some true ∧
      (build others).ancestorDeclares "\\A\\b" "STOP" = some true := by
  intro file steps others
  have hothers : List.Forall₂ IndexStep.Variant steps others := by
    refine .cons (.addFile file) (.cons (.insert ⟨1, "a\\P", ?_, ?_⟩ (.some ⟨2, "A\\q", ?_, ?_⟩)
      (.cons ?_ .nil) .nil)
      (.cons (.seed (.cons ⟨⟨1, "A\\Q", ?_, ?_⟩, .none, .cons ?_ .nil⟩ .nil)) .nil)) <;>
      decide +kernel
  have hname : NameVariant "A\\B" "\\A\\b" := ⟨1, "A\\b", by decide +kernel, by decide +kernel⟩
  have hmethod : CaseVariant "stop" "STOP" := by decide +kernel
  have hfacts : (declarations file, (build steps).get? "\\a\\b", (build steps).size,
      (build steps).ancestorDeclares "A\\B" "stop") =
        ([("A\\B", { parent := some "A\\P", methods := ["run"], traits := ["A\\T"] }), ("A\\T", {})],
          some { parent := some "A\\P", methods := ["run"], traits := ["A\\T"] }, 4, some true) := by
    decide +kernel
  obtain ⟨hdeclared, hget, hsize, hanswer⟩ : _ ∧ _ ∧ _ ∧ _ := by simpa only [Prod.mk.injEq] using hfacts
  obtain ⟨hdescribed, -, -, -, -, hspelling⟩ := finite_map_of_folded_names steps
  obtain ⟨hsame, hqueries⟩ := hspelling others hothers
  obtain ⟨-, -, hsearch⟩ := hqueries _ _ hname
  refine ⟨?_, hget, hsize, hsame.trans hsize, hanswer, (hsearch _ _ hmethod).trans hanswer⟩
  rw [← hdeclared]
  exact hdescribed (.addFile file) List.mem_cons_self

end ClassIndex

end LayerLint
