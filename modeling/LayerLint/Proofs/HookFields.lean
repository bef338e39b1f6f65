import LayerLint.Proofs.Calls
import LayerLint.Proofs.HookLookups
import LayerLint.Proofs.Sarif
import Mathlib.Data.List.Nodup
import Mathlib.Data.List.Pairwise

/-!
# Which fields the hooks of a directory read

The fields are collected over the files of the directory, over the save hooks of each file, and over
the calls of each hook.  A file counts only if it lies directly in the directory, has the right
extension, is a text, and has no syntax errors.

* `hookAt?_eq_some_iff`, `fieldAt?_eq_some_iff` — what makes a node a save hook, and a call the
  reading of a field;
* `firstSeen_foldl_addNew` — collecting keeps each name where it is first met;
* `exists_sorted_sources` — the files are gone through in the order of their paths, and those that
  tell nothing could as well be missing;
* `collect_congr_sources` — **so the fields depend on the readable files only**, not on the order in
  which the directory lists them nor on what else it holds;
* `hook_fields_exact` — the fields of a directory;
* `inner_hook_read_later` — hooks are gone through one after another, so a field that is read in a
  hook within a hook comes after all fields of the outer one.
-/

set_option autoImplicit false

namespace LayerLint.HookReads

open Syntax (Node Source MemberCall)
open Report.Sarif (FirstSeen)

/-! ## Readings -/

/-- The node is a method that runs around a save, takes the saved entity, and has a body. -/
structure SaveHook (source : Source) (method : Node) (entity : String) (body : Node) : Prop where
  isMethod : method.kind = .methodDeclaration
  named : ∃ name, method.child? .name = some name ∧ name.text source ∈ ["beforeSave", "afterSave"]
  takes : method.firstBinding? source = some entity
  hasBody : method.methodBody? = some body

/-- The call reads a field of a variable, which its first argument writes out. -/
structure ReadsField (source : Source) (entity : String) (call : Node) (field : String) :
    Prop where
  named : call.Calls source ["get", "getValue", "has"]
  onEntity : ∃ object, call.child? .object = some object ∧
    object.variableName? source = some entity
  written : ∃ argument, call.callArguments.head? = some argument ∧
    argument.stringLiteral? source = some field

/-- The entity and the body of a save hook. -/
def hookAt? (source : Source) (n : Node) : Option (String × Node) :=
  if isSaveHook source n then
    (n.firstBinding? source).bind fun entity => n.methodBody?.map fun body => (entity, body)
  else none

/-- The field that a node reads from a variable. -/
def fieldAt? (source : Source) (entity : String) (n : Node) : Option String :=
  (MemberCall.ofNode? source n).bind (readField? source entity)

variable {source : Source}

theorem isSaveHook_iff {n : Node} :
    isSaveHook source n = true ↔ n.kind = .methodDeclaration ∧
      ∃ name, n.child? .name = some name ∧ name.text source ∈ ["beforeSave", "afterSave"] := by
  unfold isSaveHook Node.declaredName?
  rw [Bool.and_eq_true, beq_iff_eq]
  refine and_congr_right fun _ => ?_
  cases n.child? .name with
  | none => simp
  | some name => simp [saveHooks]

theorem hookAt?_eq_some_iff {n : Node} {entity : String} {body : Node} :
    hookAt? source n = some (entity, body) ↔ SaveHook source n entity body := by
  unfold hookAt?
  constructor
  · intro h
    split at h
    · rename_i hhook
      obtain ⟨hmethod, hnamed⟩ := isSaveHook_iff.1 hhook
      obtain ⟨entity', hentity, h⟩ := Option.bind_eq_some_iff.1 h
      obtain ⟨body', hbody, h⟩ := Option.map_eq_some_iff.1 h
      cases h
      exact ⟨hmethod, hnamed, hentity, hbody⟩
    · cases h
  · intro h
    rw [if_pos (isSaveHook_iff.2 ⟨h.isMethod, h.named⟩), h.takes, h.hasBody]
    rfl

theorem fieldAt?_eq_some_iff {entity : String} {n : Node} {field : String} :
    fieldAt? source entity n = some field ↔ ReadsField source entity n field := by
  unfold fieldAt? readField? MemberCall.objectVariable?
  rw [Option.bind_eq_some_iff]
  constructor
  · rintro ⟨call, hcall, h⟩
    rw [MemberCall.object_of_ofNode? hcall, MemberCall.arguments_of_ofNode? hcall] at h
    obtain ⟨owner, howner, hread⟩ := Option.bind_eq_some_iff.1 h
    split at hread
    · rename_i hreads
      rw [Bool.and_eq_true, beq_iff_eq] at hreads
      obtain ⟨rfl, hnamed⟩ := hreads
      exact ⟨(MemberCall.isNamed_iff hcall).1 hnamed, Option.bind_eq_some_iff.1 howner,
        Option.bind_eq_some_iff.1 hread⟩
    · cases hread
  · intro h
    obtain ⟨call, hcall, hnamed⟩ := MemberCall.calls_iff.1 h.named
    refine ⟨call, hcall, ?_⟩
    have hreads : (entity == entity && call.isNamed fieldReads) = true := by
      rw [beq_self_eq_true, Bool.true_and]
      exact hnamed
    rw [MemberCall.object_of_ofNode? hcall, MemberCall.arguments_of_ofNode? hcall]
    refine Option.bind_eq_some_iff.2 ⟨entity, Option.bind_eq_some_iff.2 h.onEntity, ?_⟩
    rw [if_pos hreads]
    exact Option.bind_eq_some_iff.2 h.written

/-- The fields that the save hooks below a node read: hook after hook in pre-order, and in each of
    them call after call. -/
def fieldsBelow (source : Source) (root : Node) : List String :=
  (root.preorder.filterMap (hookAt? source)).flatMap fun hook =>
    hook.2.preorder.filterMap (fieldAt? source hook.1)

theorem mem_fieldsBelow_iff {root : Node} {field : String} :
    field ∈ fieldsBelow source root ↔
      ∃ method ∈ root.preorder, ∃ entity body, SaveHook source method entity body ∧
        ∃ call ∈ body.preorder, ReadsField source entity call field := by
  simp only [fieldsBelow, List.mem_flatMap, List.mem_filterMap, Prod.exists, hookAt?_eq_some_iff,
    fieldAt?_eq_some_iff]
  constructor
  · rintro ⟨entity, body, ⟨method, hmethod, hhook⟩, call, hcall, hreads⟩
    exact ⟨method, hmethod, entity, body, hhook, call, hcall, hreads⟩
  · rintro ⟨method, hmethod, entity, body, hhook, call, hcall, hreads⟩
    exact ⟨entity, body, ⟨method, hmethod, hhook⟩, call, hcall, hreads⟩

theorem flatMap_ofMethod (source : Source) (ns : List Node) :
    (ns.filter (isSaveHook source)).flatMap (ofMethod source) =
      (ns.filterMap (hookAt? source)).flatMap fun hook =>
        hook.2.preorder.filterMap (fieldAt? source hook.1) := by
  induction ns with
  | nil => rfl
  | cons n ns ih =>
    by_cases hhook : isSaveHook source n = true
    · rw [List.filter_cons_of_pos hhook, List.flatMap_cons, ih, List.filterMap_cons, hookAt?,
        if_pos hhook, ofMethod]
      cases n.firstBinding? source with
      | none => rfl
      | some entity =>
        cases n.methodBody? with
        | none => rfl
        | some body =>
          dsimp only
          rw [Node.memberCalls_eq, List.filterMap_filterMap]
          rfl
    · rw [List.filter_cons_of_neg hhook, List.filterMap_cons, hookAt?, if_neg hhook]
      exact ih

theorem ofFile_parse (path : Path) (text : String) :
    ofFile (SourceFile.parse path text) =
      if (Syntax.parse text).hasErrors then [] else fieldsBelow ⟨text⟩ (Syntax.parse text).root := by
  rw [fieldsBelow, ← flatMap_ofMethod, ← Node.findAll_eq_filter_preorder]
  rfl

/-! ## Collecting -/

theorem firstSeen_addNew {more : List String} : ∀ {seen all : List String}, FirstSeen seen all →
    FirstSeen (addNew seen more) (all ++ more) := by
  induction more with
  | nil =>
    intro seen all h
    rwa [addNew, List.append_nil]
  | cons name more ih =>
    intro seen all h
    have hsplit : all ++ name :: more = all ++ [name] ++ more := by simp
    rw [addNew, hsplit]
    split
    · rename_i hknown
      exact ih (h.again (List.contains_iff_mem.1 hknown))
    · rename_i hnew
      exact ih (h.fresh fun hmem => hnew (List.contains_iff_mem.2 hmem))

/-- **Collecting keeps each name where it is first met.** -/
theorem firstSeen_foldl_addNew {α : Type} (read : α → List String) (items : List α) :
    FirstSeen (items.foldl (fun seen item => addNew seen (read item)) []) (items.flatMap read) := by
  have hrun : ∀ {seen all : List String}, FirstSeen seen all →
      FirstSeen (items.foldl (fun seen item => addNew seen (read item)) seen)
        (all ++ items.flatMap read) := by
    induction items with
    | nil =>
      intro seen all h
      simpa using h
    | cons item items ih =>
      intro seen all h
      rw [List.foldl_cons, List.flatMap_cons, ← List.append_assoc]
      exact ih (firstSeen_addNew h)
  exact hrun ⟨List.nodup_nil, fun _ => Iff.rfl, List.Pairwise.nil⟩

/-! ## The files of a directory -/

/-- The name and the text of an entry that tells something: a file with the right extension that is
    a text without syntax errors. -/
def source? : String × Entry → Option (String × String)
  | (name, .file (.text text)) =>
    if Path.extension? ⟨name⟩ == some "php" && !(Syntax.parse text).hasErrors then
      some (name, text)
    else none
  | _ => none

theorem source?_eq_some_iff {e : String × Entry} {name text : String} :
    source? e = some (name, text) ↔ e = (name, .file (.text text)) ∧
      Path.extension? ⟨name⟩ = some "php" ∧ (Syntax.parse text).hasErrors = false := by
  constructor
  · intro h
    unfold source? at h
    split at h
    · rename_i name' text'
      split at h
      · rename_i hgood
        cases h
        rw [Bool.and_eq_true, beq_iff_eq, Bool.not_eq_true'] at hgood
        exact ⟨rfl, hgood⟩
      · cases h
    · cases h
  · rintro ⟨rfl, hextension, herrors⟩
    simp [source?, hextension, herrors]

/-- The fields that a text reads. -/
def fieldsOfText (text : String) : List String :=
  fieldsBelow ⟨text⟩ (Syntax.parse text).root

section Directory

variable {fs : FileSystem} {dir : Path} (hlisting : Entry.IsListing (fs.list dir))

include hlisting

theorem extension?_join_of_mem {e : String × Entry} (he : e ∈ fs.list dir) :
    (dir.join ⟨e.1⟩).extension? = Path.extension? ⟨e.1⟩ :=
  (hlisting.named e he).extension?_join (FileSystem.text_ne_of_list_ne (List.ne_nil_of_mem he))

/-- An entry that tells something is among the files that are read. -/
theorem isHookFile_of_source? {e : String × Entry} (he : e ∈ fs.list dir) {file : String × String}
    (hfile : source? e = some file) : isHookFile fs (dir.join ⟨e.1⟩) = true := by
  obtain ⟨name, text⟩ := file
  obtain ⟨rfl, hextension, -⟩ := source?_eq_some_iff.1 hfile
  have hfind := FileSystem.find_join_of_mem hlisting he
  have hjoin := extension?_join_of_mem hlisting he
  simp [isHookFile, FileSystem.isFile, hfind, hjoin, hextension]

/-- What is read in a file of the directory. -/
theorem ofPath_join {e : String × Entry} (he : e ∈ fs.list dir)
    (hhook : isHookFile fs (dir.join ⟨e.1⟩) = true) :
    ofPath fs (dir.join ⟨e.1⟩) =
      (source? e).toList.flatMap fun file => fieldsOfText file.2 := by
  have hfind := FileSystem.find_join_of_mem hlisting he
  have hjoin := extension?_join_of_mem hlisting he
  obtain ⟨name, entry⟩ := e
  simp only [isHookFile, FileSystem.isFile, hfind, hjoin, Bool.and_eq_true, beq_iff_eq] at hhook
  cases entry with
  | directory entries => simp at hhook
  | file content =>
    cases content with
    | binary => simp [ofPath, SourceFile.read, FileSystem.readText, hfind, source?, Except.map]
    | text text =>
      have hread : ofPath fs (dir.join ⟨name⟩) =
          ofFile (SourceFile.parse (dir.join ⟨name⟩) text) := by
        simp [ofPath, SourceFile.read, FileSystem.readText, hfind, Except.map]
      rw [hread, ofFile_parse, source?]
      cases (Syntax.parse text).hasErrors <;> simp [hhook.2, fieldsOfText]

/-- Different entries have different places in the order of their paths. -/
theorem compare_join_eq_lt {a b : String × Entry} (ha : a ∈ fs.list dir) (hb : b ∈ fs.list dir)
    (hle : (dir.join ⟨a.1⟩).le (dir.join ⟨b.1⟩) = true) (hne : a.1 ≠ b.1) :
    Path.compare (dir.join ⟨a.1⟩) (dir.join ⟨b.1⟩) = .lt := by
  have htext := FileSystem.text_ne_of_list_ne (List.ne_nil_of_mem ha)
  refine Path.compare_eq_lt hle fun hsame => hne ?_
  rw [(hlisting.named a ha).components_join htext, (hlisting.named b hb).components_join htext]
    at hsame
  simpa using hsame

/-- **The files that tell something, in the order of their paths, are all that counts.** -/
theorem exists_sorted_sources :
    ∃ files : List (String × String), files.Perm ((fs.list dir).filterMap source?) ∧
      files.Pairwise (fun a b => Path.compare (dir.join ⟨a.1⟩) (dir.join ⟨b.1⟩) = .lt) ∧
      FirstSeen (collect fs dir) (files.flatMap fun file => fieldsOfText file.2) := by
  have hperm := List.mergeSort_perm
    ((fs.list dir).filter fun e => isHookFile fs (dir.join ⟨e.1⟩)) fun a b =>
      (dir.join ⟨a.1⟩).le (dir.join ⟨b.1⟩)
  have hordered := List.pairwise_mergeSort
    (fun a b c : String × Entry => @Path.le_trans (dir.join ⟨a.1⟩) (dir.join ⟨b.1⟩) (dir.join ⟨c.1⟩))
    (fun a b => Path.le_total (dir.join ⟨a.1⟩) (dir.join ⟨b.1⟩))
    ((fs.list dir).filter fun e => isHookFile fs (dir.join ⟨e.1⟩))
  have hfiles := hookFiles_eq fs dir
  generalize ((fs.list dir).filter fun e => isHookFile fs (dir.join ⟨e.1⟩)).mergeSort
    (fun a b => (dir.join ⟨a.1⟩).le (dir.join ⟨b.1⟩)) = sorted at hperm hordered hfiles
  have hmem : ∀ e ∈ sorted, e ∈ fs.list dir ∧ isHookFile fs (dir.join ⟨e.1⟩) = true := fun e he =>
    List.mem_filter.1 (hperm.subset he)
  refine ⟨sorted.filterMap source?, ?_, ?_, ?_⟩
  · have hkept : ((fs.list dir).filter fun e => isHookFile fs (dir.join ⟨e.1⟩)).filterMap source? =
        (fs.list dir).filterMap source? := by
      rw [List.filterMap_filter]
      refine List.filterMap_congr fun e he => ?_
      cases hsource : source? e with
      | none => simp
      | some file => rw [if_pos (isHookFile_of_source? hlisting he hsource)]
    rw [← hkept]
    exact hperm.filterMap source?
  · have hdistinct : sorted.Pairwise fun a b => a.1 ≠ b.1 := by
      refine List.pairwise_map.1 ?_
      have hsublist := (List.filter_sublist (p := fun e => isHookFile fs (dir.join ⟨e.1⟩))
        (l := fs.list dir)).map Prod.fst
      exact ((hperm.map Prod.fst).nodup_iff).2 (hlisting.distinct.sublist hsublist)
    have hlt : sorted.Pairwise fun a b =>
        Path.compare (dir.join ⟨a.1⟩) (dir.join ⟨b.1⟩) = .lt :=
      (hordered.and hdistinct).imp_of_mem fun ha hb h =>
        compare_join_eq_lt hlisting (hmem _ ha).1 (hmem _ hb).1 h.1 h.2
    refine hlt.filterMap source? fun a b hab file hfile file' hfile' => ?_
    obtain ⟨rfl, -⟩ := source?_eq_some_iff.1 hfile
    obtain ⟨rfl, -⟩ := source?_eq_some_iff.1 hfile'
    exact hab
  · have hreads : (hookFiles fs dir).flatMap (ofPath fs) =
        (sorted.filterMap source?).flatMap fun file => fieldsOfText file.2 := by
      rw [hfiles, List.flatMap_map, List.filterMap_eq_flatMap_toList, List.flatMap_assoc]
      exact List.flatMap_congr fun e he => ofPath_join hlisting (hmem e he).1 (hmem e he).2
    rw [← hreads]
    exact firstSeen_foldl_addNew (ofPath fs) (hookFiles fs dir)

/-- **Only the files that tell something count**, in whatever order and among whatever else the
    directory lists them. -/
theorem collect_congr_sources {fs' : FileSystem} (hlisting' : Entry.IsListing (fs'.list dir))
    (hsources : ((fs'.list dir).filterMap source?).Perm ((fs.list dir).filterMap source?)) :
    collect fs' dir = collect fs dir := by
  obtain ⟨files, hperm, hordered, hseen⟩ := exists_sorted_sources hlisting
  obtain ⟨files', hperm', hordered', hseen'⟩ := exists_sorted_sources hlisting'
  have hsame : files' = files := by
    refine (hperm'.trans (hsources.trans hperm.symm)).eq_of_pairwise (fun a b _ _ hab hba => ?_)
      hordered' hordered
    rw [Path.compare_swap, hab] at hba
    cases hba
  rw [hsame] at hseen'
  exact hseen'.unique hseen

end Directory

/-- **The fields that the hooks of a directory read**: which they are, in which order they stand, and
    that neither the order of the listing nor files that tell nothing make a difference. -/
theorem hook_fields_exact (fs : FileSystem) (dir : Path)
    (hlisting : Entry.IsListing (fs.list dir)) :
    (collect fs dir).Nodup ∧
    (∀ field, field ∈ collect fs dir ↔
      ∃ name text, (name, .file (.text text)) ∈ fs.list dir ∧
        Path.extension? ⟨name⟩ = some "php" ∧ (Syntax.parse text).hasErrors = false ∧
        ∃ method ∈ (Syntax.parse text).root.preorder, ∃ entity body,
          SaveHook ⟨text⟩ method entity body ∧
          ∃ call ∈ body.preorder, ReadsField ⟨text⟩ entity call field) ∧
    (∃ files : List (String × String), files.Perm ((fs.list dir).filterMap source?) ∧
      files.Pairwise (fun a b => Path.compare (dir.join ⟨a.1⟩) (dir.join ⟨b.1⟩) = .lt) ∧
      FirstSeen (collect fs dir) (files.flatMap fun file =>
        fieldsBelow ⟨file.2⟩ (Syntax.parse file.2).root)) ∧
    (fs.isDirectory dir = false → collect fs dir = []) ∧
    (∀ fs' : FileSystem, (fs'.list dir).Perm (fs.list dir) → collect fs' dir = collect fs dir) ∧
    (∀ fs' : FileSystem, Entry.IsListing (fs'.list dir) →
      ((fs'.list dir).filterMap source?).Perm ((fs.list dir).filterMap source?) →
        collect fs' dir = collect fs dir) := by
  obtain ⟨files, hperm, hordered, hseen⟩ := exists_sorted_sources hlisting
  refine ⟨hseen.nodup, fun field => ?_, ⟨files, hperm, hordered, hseen⟩,
    collect_of_not_directory, fun fs' hlist => ?_, fun fs' hlisting' =>
      collect_congr_sources hlisting hlisting'⟩
  · rw [hseen.mem_iff, List.mem_flatMap]
    simp only [hperm.mem_iff, List.mem_filterMap, fieldsOfText, mem_fieldsBelow_iff]
    constructor
    · rintro ⟨⟨name, text⟩, ⟨e, he, hsource⟩, hfield⟩
      obtain ⟨rfl, hextension, herrors⟩ := source?_eq_some_iff.1 hsource
      exact ⟨name, text, he, hextension, herrors, hfield⟩
    · rintro ⟨name, text, he, hextension, herrors, hfield⟩
      exact ⟨(name, text), ⟨_, he, source?_eq_some_iff.2 ⟨rfl, hextension, herrors⟩⟩, hfield⟩
  · exact collect_congr_sources hlisting (hlisting.perm hlist) (hlist.filterMap source?)

/-- Next to a hook, the directory lists a file with a syntax error that reads a field, one that is no
    text, a note and a directory.  They could as well be missing. -/
theorem hook_fields_among_others :
    let hook : String × Entry := ("B.php", .file (.text
      "<?php class H\x7bfunction afterSave($e)\x7b$e->get('b');$e->has('a');$e->get('b');\x7d\x7d"))
    let broken : String × Entry := ("A.php", .file (.text
      "<?php class H\x7bfunction afterSave($e)\x7b$e->get('x');\x7d"))
    let others : List (String × Entry) :=
      [("C.php", .file .binary), ("N.txt", .file (.text "<?php ")), ("E.php", .directory [])]
    let fs : FileSystem := ⟨.directory [("d", .directory (broken :: others ++ [hook]))], []⟩
    let healthy : FileSystem := ⟨.directory [("d", .directory [hook])], []⟩
    Entry.IsListing (fs.list ⟨"d"⟩) ∧ Entry.IsListing (healthy.list ⟨"d"⟩) ∧
      collect healthy ⟨"d"⟩ = collect fs ⟨"d"⟩ ∧ collect fs ⟨"d"⟩ = ["b", "a"] := by
  intro hook broken others fs healthy
  have hfacts : Entry.IsListing (fs.list ⟨"d"⟩) ∧ Entry.IsListing (healthy.list ⟨"d"⟩) ∧
      ((healthy.list ⟨"d"⟩).filterMap source?).isPerm ((fs.list ⟨"d"⟩).filterMap source?) = true ∧
      collect healthy ⟨"d"⟩ = ["b", "a"] := by
    decide +kernel
  obtain ⟨hlisting, hlisting', hsources, hcollect⟩ := hfacts
  have hsame := (hook_fields_exact fs ⟨"d"⟩ hlisting).2.2.2.2.2 healthy hlisting'
    (List.isPerm_iff.1 hsources)
  exact ⟨hlisting, hlisting', hsame, hsame.symm.trans hcollect⟩

/-- A hook stands in the body of another one, before what that one reads itself.  Its field is read
    first in the file, but comes last. -/
theorem inner_hook_read_later :
    let text := "<?php class H\x7bfunction beforeSave($a)\x7bnew class\x7bfunction afterSave($b)" ++
      "\x7b$b->get('x');\x7d\x7d;$a->get('y');\x7d\x7d"
    let root := (Syntax.parse text).root
    let fs : FileSystem := ⟨.directory [("d", .directory [("H.php", .file (.text text))])], []⟩
    (Syntax.parse text).hasErrors = false ∧
    (root.preorder.filterMap (hookAt? ⟨text⟩)).map Prod.fst = ["a", "b"] ∧
    root.preorder.filterMap (fun n => (fieldAt? ⟨text⟩ "a" n).or (fieldAt? ⟨text⟩ "b" n)) =
      ["x", "y"] ∧
    collect fs ⟨"d"⟩ = ["y", "x"] := by
  decide +kernel

end LayerLint.HookReads
