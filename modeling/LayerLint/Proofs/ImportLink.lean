import LayerLint.Proofs.ClassIndex
import LayerLint.Proofs.UseDeclaration

/-!
# From an import to the class that it names

One file declares a class, another one imports it, and the name that is written there is looked up
in the index.  The full name is put together at three places, each of which deals with case and with
backslashes in its own way, and they meet:

* `SourceFile.Imports.resolve_eq` — in the importing file, a local name in any case resolves to the
  full name of its use declaration;
* `SourceFile.DeclaresOnce.get?_addFile` — the index keeps the class of the declaring file under its
  full name in any case;
* `use_declarations_link` — **so the import leads to the declaration.**
-/

set_option autoImplicit false

namespace LayerLint

open Syntax (Import Names Node)
open Syntax.Written (Word Name Gap Statement)

/-- A search finds a value that all candidates share. -/
theorem map_find?_eq_some {α β : Type} {candidates : List α} {p : α → Bool} {f : α → β} {b : β}
    (hsome : ∃ a ∈ candidates, p a = true) (hall : ∀ a ∈ candidates, p a = true → f a = b) :
    (candidates.find? p).map f = some b := by
  obtain ⟨a, ha⟩ := Option.isSome_iff_exists.1 (List.find?_isSome.2 hsome)
  rw [ha, Option.map_some, hall a (List.mem_of_find?_eq_some ha) (List.find?_some ha)]

/-! ## Names up to case -/

theorem Syntax.Names.isRelativeWord_congr {a b : String} (h : Text.sameFolded a b = true) :
    isRelativeWord a = isRelativeWord b := by
  have hsame : Text.sameFolded a = Text.sameFolded b := by
    funext s
    rw [Text.sameFolded, Text.sameFolded, (Text.sameFolded_iff a b).1 h]
  rw [isRelativeWord, hsame, isRelativeWord]

/-- A name has no backslashes at its start, whatever follows it. -/
theorem trimStart_append (n : Name) (rest : String) :
    Text.trimStart (· == '\\') (n.text ++ rest) = n.text ++ rest := by
  have hlist : (n.text ++ rest).toList = n.chars ++ rest.toList := by simp [Name.text]
  refine Text.trimStart_eq_self fun c hc => ?_
  rw [hlist, List.head?_append_of_ne_nil _ n.ne_nil] at hc
  exact Syntax.Written.ne_backslash_of_isWord (n.head c hc)

theorem classKey_append (n : Name) (rest : String) :
    classKey (n.text ++ rest) = Text.foldAscii (n.text ++ rest) := by
  rw [classKey, trimStart_append]

namespace Syntax.Written

/-- What equals a word up to case is a word. -/
theorem Word.exists_of_sameFolded {w : Word} {s : String} (h : Text.sameFolded s w.text = true) :
    ∃ v : Word, s = v.text := by
  rw [Text.sameFolded_iff] at h
  have hmap : s.toList.map Char.toLower = w.chars.map Char.toLower := by
    simpa [Text.foldAscii, Word.text] using congrArg String.toList h
  have hne : s.toList ≠ [] := by
    intro hnil
    rw [hnil] at hmap
    exact w.ne_nil (List.map_eq_nil_iff.1 hmap.symm)
  have hword : ∀ c ∈ s.toList, Text.isWord c = true := by
    intro c hc
    have hlower : c.toLower ∈ w.chars.map Char.toLower := by
      rw [← hmap]
      exact List.mem_map_of_mem hc
    obtain ⟨d, hd, hdc⟩ := List.mem_map.1 hlower
    rw [← Text.isWord_toLower, ← hdc, Text.isWord_toLower]
    exact w.isWord d hd
  exact ⟨⟨s.toList, hne, List.all_eq_true.2 hword⟩, by simp [Word.text]⟩

theorem Statement.exists_of_mem_imports {u : Statement} {i : Import} (h : i ∈ u.imports) :
    ∃ (w : Word) (n : Name), i = ⟨w.text, n.text⟩ := by
  simp only [imports] at h
  cases hbody : u.body with
  | flat clauses =>
    rw [hbody] at h
    obtain ⟨c, -, rfl⟩ := List.mem_map.1 h
    exact ⟨_, _, rfl⟩
  | group g =>
    rw [hbody] at h
    obtain ⟨c, -, rfl⟩ := List.mem_map.1 h
    exact ⟨_, _, rfl⟩

end Syntax.Written

/-! ## Resolving an imported name -/

namespace Syntax.Names

/-- A single word stands for what is imported under it, or else for a class of the namespace. -/
theorem resolve_word (names : Names) (w : Word) (hrelative : isRelativeWord w.text = false) :
    names.resolve w.text = (names.imported? w.text).getD (names.qualify w.text) := by
  have htrim : Text.trim w.text = w.text := by
    have h := Written.trimChars_append .none w.solid .none
    simp only [Written.Blanks.none, List.nil_append, List.append_nil] at h
    simp only [Text.trim, Text.trimBoth, Text.trimEnd, Text.trimStart, Word.text,
      String.toList_ofList]
    exact congrArg String.ofList h
  have hbackslash : '\\' ∉ w.chars := fun h => absurd (w.isWord _ h) (by decide)
  have hlead : Text.dropLead? "\\" w.text = none := by
    obtain ⟨c, cs, hcs⟩ := List.exists_cons_of_ne_nil w.ne_nil
    have hc : '\\' ≠ c := fun h => hbackslash (by rw [hcs, ← h]; exact List.mem_cons_self)
    simp [Text.dropLead?, Word.text, hcs, List.isPrefixOf?, hc]
  have hcut : Text.cutFirst? "\\" w.text = none := by
    have h := Text.cutAtFirst?_eq_none [] hbackslash
    rw [Text.cutFirst?, Word.text, String.toList_ofList, String.toList_ofList, h]
    rfl
  simp only [resolve, htrim, hlead, hrelative, hcut, Bool.false_eq_true, if_false]
  cases names.imported? w.text <;> rfl

theorem imported?_eq_some {names : Names} {i : Import} (hmem : i ∈ names.imports)
    {written : String} (hwritten : Text.sameFolded i.localName written = true)
    (honly : ∀ j ∈ names.imports, Text.sameFolded j.localName written = true → j = i) :
    names.imported? written = some i.fullName := by
  refine map_find?_eq_some ⟨i, List.mem_reverse.2 hmem, hwritten⟩ fun j hj hsame => ?_
  rw [honly j (List.mem_reverse.1 hj) hsame]

end Syntax.Names

/-! ## Files that declare and files that import -/

namespace SourceFile

theorem names_parse (path : Path) (text : String) :
    (parse path text).names = .ofTree (parse path text).source (parse path text).root := rfl

/-- The file has one namespace, and one of its classes and traits goes by a name, in any case. -/
structure DeclaresOnce (file : SourceFile) (space : Name) (name : String) (declaration : Node) :
    Prop where
  names_eq : file.names = .ofTree file.source file.root
  namespaces : ∃ definition label,
    (file.root.findAll fun n => n.kind == .namespaceDefinition) = [definition] ∧
      definition.child? .name = some label ∧ file.text label = space.text
  once : ((file.root.findAll fun n => n.kind == .classDeclaration || n.kind == .traitDeclaration)
    |>.filter fun n => (n.declaredName? file.source).any (Text.sameFolded name)) = [declaration]

/-- One of the use declarations of the file lists a class.  The name that it goes by is none of
    those that stand for no class, and belongs to no other import in any case. -/
structure Imports (file : SourceFile) (i : Import) : Prop where
  names_eq : file.names = .ofTree file.source file.root
  listed : ∃ u : Statement, i ∈ u.imports ∧
    u.text ∈ (file.root.findAll fun n => n.kind == .namespaceUseDeclaration).map file.text
  named : Names.isRelativeWord i.localName = false
  only : ∀ j ∈ file.names.imports, Text.sameFolded j.localName i.localName = true → j = i

/-- The file imports what it lists. -/
theorem Imports.mem_imports {file : SourceFile} {i : Import} (h : file.Imports i) :
    i ∈ file.names.imports := by
  obtain ⟨u, hi, hu⟩ := h.listed
  obtain ⟨n, hn, htext⟩ := List.mem_map.1 hu
  rw [h.names_eq]
  refine List.mem_flatMap.2 ⟨n, hn, ?_⟩
  have hread : Import.ofDeclaration (n.text file.source) = u.imports := by
    rw [← u.ofDeclaration_text, ← htext]
    rfl
  rw [hread]
  exact hi

/-- Whatever the case of its letters, a local name stands for the class that it was given to. -/
theorem Imports.resolve_eq {file : SourceFile} {i : Import} (h : file.Imports i) {written : String}
    (hwritten : Text.sameFolded written i.localName = true) :
    file.names.resolve written = i.fullName := by
  obtain ⟨u, hi, -⟩ := h.listed
  obtain ⟨w, n, rfl⟩ := Statement.exists_of_mem_imports hi
  obtain ⟨v, rfl⟩ := Word.exists_of_sameFolded hwritten
  have hfold := (Text.sameFolded_iff _ _).1 hwritten
  have hrelative : Names.isRelativeWord v.text = false := by
    rw [Names.isRelativeWord_congr hwritten]
    exact h.named
  have himported : file.names.imported? v.text = some n.text := by
    refine Names.imported?_eq_some h.mem_imports ?_ fun j hj hsame => h.only j hj ?_
    · exact (Text.sameFolded_iff _ _).2 hfold.symm
    · rw [Text.sameFolded_iff] at hsame ⊢
      exact hsame.trans hfold
  rw [Names.resolve_word _ v hrelative, himported]
  rfl

namespace DeclaresOnce

variable {file : SourceFile} {space : Name} {name : String} {declaration : Node}

theorem home_eq (h : file.DeclaresOnce space name declaration) :
    file.names.home = some space.text := by
  obtain ⟨definition, label, hall, hlabel, htext⟩ := h.namespaces
  have hfirst : (file.root.findFirst fun n => n.kind == .namespaceDefinition) =
      some definition := by
    rw [Node.findFirst_eq_find_preorder, ← List.head?_filter, ← Node.findAll_eq_filter_preorder,
      hall]
    rfl
  have hhome : Text.trimStart (· == '\\') space.text = space.text := by
    simpa using trimStart_append space ""
  have htext' : label.text file.source = space.text := htext
  rw [h.names_eq]
  simp only [Names.ofTree, hfirst, hlabel, Option.bind_eq_bind, Option.bind_some, htext', hhome]
  rfl

theorem qualify_eq (h : file.DeclaresOnce space name declaration) (short : String) :
    file.names.qualify short = space.text ++ "\\" ++ short := by
  rw [Names.qualify, h.home_eq]

/-- What the file declares goes by the full name if and only if it goes by the short one. -/
theorem classKey_qualify_iff (h : file.DeclaresOnce space name declaration) (short : String) :
    classKey (file.names.qualify short) = classKey (space.text ++ "\\" ++ name) ↔
      Text.sameFolded name short = true := by
  rw [h.qualify_eq, String.append_assoc, classKey_append, String.append_assoc, classKey_append,
    Text.foldAscii_append_inj, Text.foldAscii_append_inj, Text.sameFolded_iff]
  exact eq_comm

/-- **The index keeps the class under its full name.** -/
theorem get?_addFile (h : file.DeclaresOnce space name declaration) (index : ClassIndex)
    {full : String} (hfull : classKey full = classKey (space.text ++ "\\" ++ name)) :
    (index.addFile file).get? full = some (ClassIndex.describe file declaration) := by
  have hmem : ∀ n, n = declaration ↔
      n ∈ (file.root.findAll fun n => n.kind == .classDeclaration || n.kind == .traitDeclaration) ∧
        ∃ short, n.declaredName? file.source = some short ∧ Text.sameFolded name short = true := by
    intro n
    rw [← List.mem_singleton, ← h.once, List.mem_filter, Option.any_eq_true]
  have hlast : ClassIndex.lastNamed (ClassIndex.declarations file) full =
      some (ClassIndex.describe file declaration) := by
    refine map_find?_eq_some ?_ fun c hc hkey => ?_
    · obtain ⟨hfound, short, hshort, hname⟩ := (hmem declaration).1 rfl
      refine ⟨(file.names.qualify short, ClassIndex.describe file declaration), ?_, ?_⟩
      · rw [List.mem_reverse]
        exact List.mem_filterMap.2 ⟨declaration, hfound, by rw [hshort]; rfl⟩
      · rw [beq_iff_eq, hfull]
        exact (h.classKey_qualify_iff short).2 hname
    · obtain ⟨n, hfound, hn⟩ := List.mem_filterMap.1 (List.mem_reverse.1 hc)
      obtain ⟨short, hshort, rfl⟩ := Option.map_eq_some_iff.1 hn
      rw [beq_iff_eq, hfull] at hkey
      rw [(hmem n).2 ⟨hfound, short, hshort, (h.classKey_qualify_iff short).1 hkey⟩]
  rw [ClassIndex.addFile, ClassIndex.get?_insertAll, hlast]
  rfl

end DeclaresOnce

end SourceFile

/-- **Use declarations read back as what they list, and lead to the class that they name.** -/
theorem use_declarations_link :
    (∀ u : Statement, Import.ofDeclaration u.text = u.imports) ∧
    ∀ (index : ClassIndex) {declaring importing : SourceFile} {space : Name} {name : String}
      {declaration : Node} {i : Import},
      declaring.DeclaresOnce space name declaration → importing.Imports i →
      Text.sameFolded i.fullName (space.text ++ "\\" ++ name) = true →
      ∀ written, Text.sameFolded written i.localName = true →
        (index.addFile declaring).get? (importing.names.resolve written) =
          some (ClassIndex.describe declaring declaration) := by
  refine ⟨Statement.ofDeclaration_text, ?_⟩
  intro index declaring importing space name declaration i hdeclares himports hfull written hwritten
  have hkey : classKey i.fullName = classKey (space.text ++ "\\" ++ name) := by
    obtain ⟨u, hi, -⟩ := himports.listed
    obtain ⟨w, n, rfl⟩ := Statement.exists_of_mem_imports hi
    have hname : classKey n.text = Text.foldAscii n.text := by simpa using classKey_append n ""
    rw [hname, (Text.sameFolded_iff _ _).1 hfull, String.append_assoc, classKey_append]
  rw [himports.resolve_eq hwritten]
  exact hdeclares.get?_addFile index hkey

/-- `use \App\{ Core\record AS Base, function f,} ;` -/
def groupedImport : Statement where
  indent := .none
  keyword := ⟨"use".toList, by decide⟩
  gap := .space
  body := .group {
    rooted := true
    base := ⟨⟨"App".toList, by decide, by decide⟩, []⟩
    beforeBrace := .none
    opening := Gap.space.toBlanks
    items := {
      first := .ofClass {
        rooted := false
        name := {
          first := ⟨"Core".toList, by decide, by decide⟩
          more := [⟨"record".toList, by decide, by decide⟩] }
        renamed := some {
          before := .space
          keyword := ⟨"AS".toList, by decide⟩
          after := .space
          name := ⟨"Base".toList, by decide, by decide⟩ }
        proper := by decide }
      more := [(⟨.none, Gap.space.toBlanks⟩, .foreign {
        word := "function"
        isForeign := by decide
        keyword := ⟨"function".toList, by decide⟩
        gap := .space
        clause := ⟨false, ⟨⟨"f".toList, by decide, by decide⟩, []⟩, none⟩ })] }
    trailing := some .none
    closing := .none }
  beforeEnd := Gap.space.toBlanks
  afterEnd := .none

/-- A class that is found through a group, under an alias, whatever the case of either name. -/
theorem use_declarations_link_group :
    let declaring := SourceFile.parse ⟨"R.php"⟩
      "<?php namespace App\\Core; class Record \x7bfunction save()\x7b\x7d\x7d"
    let importing := SourceFile.parse ⟨"S.php"⟩ ("<?php " ++ groupedImport.text)
    (ClassIndex.empty.addFile declaring).get? (importing.names.resolve "BASE") =
      some { methods := ["save"] } := by
  intro declaring importing
  have hspaces : (declaring.root.findAll fun n => n.kind == .namespaceDefinition).map
      (fun n => (n.child? .name).map declaring.text) = [some "App\\Core"] := by
    decide +kernel
  obtain ⟨definition, hdefinition, hlabel⟩ := List.map_eq_singleton_iff.1 hspaces
  obtain ⟨label, hlabel, htext⟩ := Option.map_eq_some_iff.1 hlabel
  have hclasses : ((declaring.root.findAll fun n =>
      n.kind == .classDeclaration || n.kind == .traitDeclaration).filter fun n =>
        (n.declaredName? declaring.source).any (Text.sameFolded "Record")).map
      (ClassIndex.describe declaring) = [{ methods := ["save"] }] := by
    decide +kernel
  obtain ⟨declaration, honce, hinfo⟩ := List.map_eq_singleton_iff.1 hclasses
  have himports : importing.names.imports = [⟨"Base", "App\\Core\\record"⟩] := by
    decide +kernel
  have hdeclares : declaring.DeclaresOnce
      { first := ⟨"App".toList, by decide, by decide⟩
        more := [⟨"Core".toList, by decide, by decide⟩] }
      "Record" declaration := by
    refine ⟨SourceFile.names_parse _ _, ⟨definition, label, hdefinition, hlabel, ?_⟩, honce⟩
    exact htext.trans (by decide +kernel)
  have hlinks : importing.Imports ⟨"Base", "App\\Core\\record"⟩ := by
    refine ⟨SourceFile.names_parse _ _, ⟨groupedImport, by decide +kernel, by decide +kernel⟩,
      by decide +kernel, fun j hj _ => ?_⟩
    rw [himports] at hj
    exact List.mem_singleton.1 hj
  have hfound := use_declarations_link.2 .empty hdeclares hlinks (by decide +kernel) "BASE"
    (by decide +kernel)
  exact hfound.trans (congrArg some hinfo)

end LayerLint
