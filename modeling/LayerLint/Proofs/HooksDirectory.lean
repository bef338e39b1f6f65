import LayerLint.Layer
import LayerLint.Proofs.Path

/-!
# Where the hooks of an entity type are looked for

A file of the backend lies below a backend root, and the hooks of an entity type lie below the same
root.  The path is cut at the root and put together again with the directory of the hooks, and the
module before the root is empty in two situations: the path starts with the root, or with a slash and
the root.

* `splitBackend?_cases` — the two ways in which a path runs through the root;
* `components_hooks` — the hooks lie below what the module and the root are put together to;
* `hooks_beside_file` — **the hooks lie in the backend directory of the file, unless the path is
  absolute and nothing stands before the root;** then they are looked for below the working
  directory;
* `hooks_of_outermost_module_misplaced` — there are such paths.
-/

set_option autoImplicit false

namespace LayerLint

open LayerLint.Path (IsName)

/-! ## The backend root inside a path -/

theorem isAbsolute_trimRoot (root : String) : Path.isAbsolute ⟨trimRoot root⟩ = false := by
  refine Bool.eq_false_iff.2 fun habs => ?_
  have hlead : ['/'] <+: (trimRoot root).toList := Text.startsWith_iff_prefix.1 habs
  have hkept : (trimRoot root).toList <+: root.toList.dropWhile (· == '/') := by
    simp only [trimRoot, Text.trimBoth, Text.trimEnd, Text.trimStart, String.toList_ofList]
    exact Text.dropEndWhile_prefix _ _
  obtain ⟨rest, hrest⟩ := hlead.trans hkept
  have hhead := List.head?_dropWhile_not (· == '/') root.toList
  rw [← hrest] at hhead
  simp at hhead

/-- **A path starts with the root, or runs through it after a slash.**  Nothing else of it is lost. -/
theorem splitBackend?_cases {path root : String} {cut : BackendSplit}
    (h : splitBackend? path root = some cut) :
    (cut.moduleRoot = "" ∧ path = trimRoot root ++ "/" ++ cut.rest) ∨
      path = cut.moduleRoot ++ "/" ++ trimRoot root ++ "/" ++ cut.rest := by
  unfold splitBackend? at h
  split at h
  · rename_i rest hlead
    cases h
    obtain ⟨cs, hcs, rfl⟩ := Option.map_eq_some_iff.1 hlead
    rw [List.isPrefixOf?_eq_some_iff_append_eq] at hcs
    refine .inl ⟨rfl, ?_⟩
    rw [← String.toList_inj, ← hcs]
    simp
  · obtain ⟨texts, htexts, rfl⟩ := Option.map_eq_some_iff.1 h
    obtain ⟨⟨before, after⟩, hchars, rfl⟩ := Option.map_eq_some_iff.1 htexts
    refine .inr ?_
    rw [← String.toList_inj, Text.append_of_cutAtFirst? hchars]
    simp

/-! ## The directory of the hooks -/

variable {path root entity : String} {cut : BackendSplit}

theorem components_hooks {backend : Path} (hbackend : backend.text ≠ "") (hentity : IsName entity) :
    ((backend.join ⟨Layer.hooks.directory⟩).join ⟨entity⟩).components =
      backend.components ++ [.name "Hooks", .name entity] := by
  have hhooks : IsName Layer.hooks.directory := by decide
  rw [hentity.components_join (Path.text_join_ne_empty hbackend hhooks.isAbsolute_eq),
    hhooks.components_join hbackend, List.append_assoc]
  rfl

/-- The hooks of a path that starts with the root, or of which nothing is left before the root. -/
theorem hooksDirectory?_of_empty (hcut : splitBackend? path root = some cut)
    (hmodule : cut.moduleRoot = "") :
    hooksDirectory? path root entity =
      some ((Path.join ⟨trimRoot root⟩ ⟨Layer.hooks.directory⟩).join ⟨entity⟩) := by
  simp [hooksDirectory?, hcut, hmodule]

theorem hooksDirectory?_of_module (hcut : splitBackend? path root = some cut)
    (hmodule : cut.moduleRoot ≠ "") :
    hooksDirectory? path root entity =
      some (((Path.join ⟨cut.moduleRoot⟩ ⟨trimRoot root⟩).join ⟨Layer.hooks.directory⟩).join
        ⟨entity⟩) := by
  simp [hooksDirectory?, hcut, hmodule]

/-- Where the module is known, or the path is relative, the hooks lie in the backend directory. -/
theorem exists_backend (hcut : splitBackend? path root = some cut) (hentity : IsName entity)
    (hplaced : Path.isAbsolute ⟨path⟩ = false ∨ cut.moduleRoot ≠ "") :
    ∃ place hooks, place ≠ "" ∧ path = place ++ "/" ++ cut.rest ∧
      hooksDirectory? path root entity = some hooks ∧
      hooks.components = Path.components ⟨place⟩ ++ [.name "Hooks", .name entity] := by
  have hroot := isAbsolute_trimRoot root
  by_cases hmodule : cut.moduleRoot = ""
  · have hrelative : Path.isAbsolute ⟨path⟩ = false := hplaced.resolve_right (not_not_intro hmodule)
    -- the root stands at the very start: a slash before it would make the path absolute
    have hpath : path = trimRoot root ++ "/" ++ cut.rest := by
      rcases splitBackend?_cases hcut with h | h
      · exact h.2
      · rw [h, hmodule] at hrelative
        simp [Path.isAbsolute, Text.startsWith, List.isPrefixOf] at hrelative
    have hne : trimRoot root ≠ "" := by
      intro hempty
      rw [hpath, hempty] at hrelative
      simp [Path.isAbsolute, Text.startsWith, List.isPrefixOf] at hrelative
    exact ⟨trimRoot root, _, hne, hpath, hooksDirectory?_of_empty hcut hmodule,
      components_hooks hne hentity⟩
  · have hpath : path = cut.moduleRoot ++ "/" ++ trimRoot root ++ "/" ++ cut.rest :=
      (splitBackend?_cases hcut).resolve_left fun h => hmodule h.1
    have hplace : cut.moduleRoot ++ "/" ++ trimRoot root ≠ "" := by simp
    have hjoin : (Path.join ⟨cut.moduleRoot⟩ ⟨trimRoot root⟩).components =
        Path.components ⟨cut.moduleRoot ++ "/" ++ trimRoot root⟩ := by
      rw [Path.components_join hmodule hroot, Path.components_append_slash hmodule,
        ← Path.filterMap_ofSegment_steps]
    refine ⟨cut.moduleRoot ++ "/" ++ trimRoot root, _, hplace, hpath,
      hooksDirectory?_of_module hcut hmodule, ?_⟩
    rw [components_hooks (Path.text_join_ne_empty hmodule hroot) hentity, hjoin]

/-- Where nothing stands before the root, the place of the hooks is relative. -/
theorem isAbsolute_hooks_of_empty (root : String) (hentity : IsName entity) :
    ((Path.join ⟨trimRoot root⟩ ⟨Layer.hooks.directory⟩).join ⟨entity⟩).isAbsolute = false := by
  have hhooks : IsName Layer.hooks.directory := by decide
  have hbackend : (Path.join ⟨trimRoot root⟩ ⟨Layer.hooks.directory⟩).isAbsolute = false ∧
      (Path.join ⟨trimRoot root⟩ ⟨Layer.hooks.directory⟩).text ≠ "" := by
    by_cases hempty : trimRoot root = ""
    · rw [hempty]
      exact ⟨rfl, by decide⟩
    · rw [Path.isAbsolute_join (p := ⟨trimRoot root⟩) hempty hhooks.isAbsolute_eq]
      exact ⟨isAbsolute_trimRoot root, Path.text_join_ne_empty hempty hhooks.isAbsolute_eq⟩
  rw [Path.isAbsolute_join hbackend.2 hentity.isAbsolute_eq]
  exact hbackend.1

/-- Two steps further down do not change whether a place is absolute. -/
theorem isAbsolute_of_components {hooks backend : Path} {a b : String}
    (h : hooks.components = backend.components ++ [.name a, .name b]) :
    hooks.isAbsolute = backend.isAbsolute := by
  rw [Bool.eq_iff_iff, ← Path.root_mem_components, ← Path.root_mem_components, h]
  simp

/-- A file below the directory of the hooks has that directory as its parent. -/
theorem exists_parent_of_hook {place file : String} (hplace : place ≠ "") (hentity : IsName entity)
    (hfile : '/' ∉ file.toList) :
    ∃ parent,
      Path.parent? ⟨place ++ "/" ++ "Hooks/" ++ entity ++ "/" ++ (file ++ ".php")⟩ = some parent ∧
        parent.components = Path.components ⟨place⟩ ++ [.name "Hooks", .name entity] := by
  have hhooks : IsName "Hooks" := by decide
  have hname : Path.isVoid (file ++ ".php") = false := by
    have hlength : 4 ≤ (file ++ ".php").length := by
      rw [String.length_append]
      exact Nat.le_add_left 4 _
    simp only [Path.isVoid, Bool.or_eq_false_iff, beq_eq_false_iff_ne]
    constructor <;> intro h <;> rw [h] at hlength <;> revert hlength <;> decide
  have htext : place ++ "/" ++ "Hooks/" ++ entity = place ++ "/" ++ "Hooks" ++ "/" ++ entity := by
    simp [← String.toList_inj]
  obtain ⟨parent, hparent, hcomponents⟩ := Path.exists_parent? (x := place ++ "/" ++ "Hooks/" ++ entity)
    (by simp) hname (by simpa using hfile)
  refine ⟨parent, hparent, ?_⟩
  rw [hcomponents, htext, Path.components_append_slash (by simp), Path.components_append_slash hplace,
    hhooks.filterMap_segments, hentity.filterMap_segments, List.append_assoc]
  rfl

/-- **Where the hooks of an entity type are looked for.**  Cut at the backend root, a path is the way
    to a backend directory and what lies below it.  The hooks lie in that directory just if the path
    is relative or something stands before the slash at which the root begins; and just then they
    are at an absolute place if the file is.  So it is their directory in which a file of hooks
    stands that is written below the same backend directory. -/
theorem hooks_beside_file {path root entity : String} {cut : BackendSplit}
    (hcut : splitBackend? path root = some cut) (hentity : IsName entity) :
    ∃ backend hooks, path = backend ++ cut.rest ∧
      hooksDirectory? path root entity = some hooks ∧
      (hooks.components = Path.components ⟨backend⟩ ++ [.name "Hooks", .name entity] ↔
        Path.isAbsolute ⟨path⟩ = false ∨ cut.moduleRoot ≠ "") ∧
      (hooks.isAbsolute = Path.isAbsolute ⟨path⟩ ↔
        Path.isAbsolute ⟨path⟩ = false ∨ cut.moduleRoot ≠ "") ∧
      ((Path.isAbsolute ⟨path⟩ = false ∨ cut.moduleRoot ≠ "") → ∀ file : String,
        '/' ∉ file.toList → ∃ parent,
          Path.parent? ⟨backend ++ "Hooks/" ++ entity ++ "/" ++ (file ++ ".php")⟩ = some parent ∧
            parent.components = hooks.components) := by
  by_cases hplaced : Path.isAbsolute ⟨path⟩ = false ∨ cut.moduleRoot ≠ ""
  · obtain ⟨place, hooks, hplace, hpath, hhooks, hcomponents⟩ := exists_backend hcut hentity hplaced
    have habsolute : Path.isAbsolute ⟨path⟩ = Path.isAbsolute ⟨place⟩ := by
      rw [hpath, String.append_assoc, Path.isAbsolute_append hplace]
    refine ⟨place ++ "/", hooks, hpath, hhooks, ?_, ?_, fun _ file hfile => ?_⟩
    · rw [Path.components_concat_slash hplace]
      exact iff_of_true hcomponents hplaced
    · rw [isAbsolute_of_components hcomponents]
      exact iff_of_true habsolute.symm hplaced
    · rw [hcomponents]
      exact exists_parent_of_hook hplace hentity hfile
  · obtain ⟨habsolute, hmodule⟩ : Path.isAbsolute ⟨path⟩ = true ∧ cut.moduleRoot = "" := by
      simpa using hplaced
    have hrelative := isAbsolute_hooks_of_empty root hentity
    obtain ⟨backend, hbackend, hpath⟩ : ∃ backend, backend ≠ "" ∧ path = backend ++ cut.rest := by
      rcases splitBackend?_cases hcut with h | h
      · exact ⟨_, by simp, h.2⟩
      · exact ⟨_, by simp, h⟩
    have hbackend' : Path.isAbsolute ⟨backend⟩ = true := by
      rw [← Path.isAbsolute_append hbackend cut.rest, ← hpath]
      exact habsolute
    refine ⟨backend, _, hpath, hooksDirectory?_of_empty hcut hmodule, ?_, ?_,
      fun h => absurd h hplaced⟩
    · refine iff_of_false (fun hcomponents => ?_) hplaced
      rw [isAbsolute_of_components hcomponents, hbackend'] at hrelative
      cases hrelative
    · refine iff_of_false (fun hsame => ?_) hplaced
      rw [hrelative, habsolute] at hsame
      cases hsame

/-- A path with a repeated slash and a root with slashes around it. -/
theorem hooks_beside_file_repeated_slash :
    let cut : BackendSplit := ⟨"/work//mod/", "Tools/A.php"⟩
    splitBackend? "/work//mod//src/backend/Tools/A.php" "/src/backend/" = some cut ∧
      IsName "Order" ∧
      ∃ backend hooks, "/work//mod//src/backend/Tools/A.php" = backend ++ cut.rest ∧
        hooksDirectory? "/work//mod//src/backend/Tools/A.php" "/src/backend/" "Order" = some hooks ∧
        hooks.components = Path.components ⟨backend⟩ ++ [.name "Hooks", .name "Order"] ∧
        hooks.isAbsolute = true ∧
        ∃ parent, Path.parent? ⟨backend ++ "Hooks/" ++ "Order" ++ "/" ++ ("Audit" ++ ".php")⟩ =
          some parent ∧ parent.components = hooks.components := by
  intro cut
  have hcut : splitBackend? "/work//mod//src/backend/Tools/A.php" "/src/backend/" = some cut := by
    decide
  have hentity : IsName "Order" := by decide
  have hmodule : cut.moduleRoot ≠ "" := by decide
  obtain ⟨backend, hooks, hpath, hhooks, hbeside, habsolute, hparent⟩ :=
    hooks_beside_file hcut hentity
  refine ⟨hcut, hentity, backend, hooks, hpath, hhooks, hbeside.2 (.inr hmodule),
    (habsolute.2 (.inr hmodule)).trans (by decide), ?_⟩
  exact hparent (.inr hmodule) "Audit" (by decide)

/-- The backend directory stands directly below the root of the file system.  The hooks of the same
    directory are looked for below the working directory. -/
theorem hooks_of_outermost_module_misplaced :
    splitBackend? "/src/backend/Tools/A.php" "src/backend" = some ⟨"", "Tools/A.php"⟩ ∧
      IsName "Order" ∧
      "/src/backend/Tools/A.php" = "/src/backend/" ++ "Tools/A.php" ∧
      ∃ hooks, hooksDirectory? "/src/backend/Tools/A.php" "src/backend" "Order" = some hooks ∧
        Path.isAbsolute ⟨"/src/backend/Tools/A.php"⟩ = true ∧ hooks.isAbsolute = false ∧
        hooks.components ≠ Path.components ⟨"/src/backend/"⟩ ++ [.name "Hooks", .name "Order"] := by
  refine ⟨by decide, by decide, by decide, ⟨"src/backend/Hooks/Order"⟩, ?_, ?_, ?_, ?_⟩ <;> decide

end LayerLint
