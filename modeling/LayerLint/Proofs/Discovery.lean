import LayerLint.Discovery
import LayerLint.Proofs.Path
import Mathlib.Data.List.Nodup

/-!
# The source files of a directory

Finding the sources of a target means to walk through a tree, to leave out what the configuration
does not want, and to sort the rest.  Where no ignore file has a say, this comes down to which names
lead to a file.

* `Route` — names that lead from a directory to something below it;
* `Entry.fileNames` — the names that lead to the files of a tree, and `mem_fileNames_iff`,
  `nodup_fileNames` — there is every file, and none twice;
* `FileSystem.find_descend_eq_ok_iff` — what a path finds below a target is what stands in the tree
  of the target;
* `IgnoreChain.IsSilent.ignores_eq_false` — without rules nothing is ignored, and so
  `Discovery.walk_eq` — the walk meets all files of the tree;
* `Discovery.discover_eq` — the sources are the files that are wanted, sorted;
* `Discovery.discover_exact` — which files these are, in which order, and how those of a directory
  below the target are related to those of the target.

The walk goes by paths, and the filter by what such a path is relative to the target.  Both are
brought back to the names: a route is told apart from the path it is put behind
(`Route.relativeTo_join`), however that path is written.
-/

set_option autoImplicit false

namespace LayerLint

/-! ## Going down -/

namespace Path

/-- The path at the end of some names below a path. -/
def descend (p : Path) (names : List String) : Path :=
  names.foldl (fun p name => p.join ⟨name⟩) p

theorem descend_append (p : Path) (a b : List String) :
    p.descend (a ++ b) = (p.descend a).descend b :=
  List.foldl_append

/-- All relative paths are put behind the same text. -/
theorem exists_join_eq (p : Path) :
    ∃ lead : String, ∀ q : Path, q.isAbsolute = false → p.join q = ⟨lead ++ q.text⟩ := by
  by_cases hend : (p.text == "" || p.text.toList.getLast? == some '/') = true
  · exact ⟨p.text, fun q hq => by simp only [join, hq, hend, Bool.false_eq_true, if_false, if_true]⟩
  · exact ⟨p.text ++ "/", fun q hq => by simp only [join, hq, hend, Bool.false_eq_true, if_false]⟩

theorem join_join {p q : Path} {name : String} (hname : IsName name)
    (hq : q.isAbsolute = false) : (p.join ⟨name⟩).join q = p.join ⟨name ++ "/" ++ q.text⟩ := by
  obtain ⟨lead, hlead⟩ := p.exists_join_eq
  have hlast : (lead ++ name).toList.getLast? ≠ some '/' := by
    rw [String.toList_append,
      List.getLast?_append_of_ne_nil _ (mt String.toList_eq_nil_iff.1 hname.ne_empty)]
    exact fun h => hname.2.2 (List.mem_of_mem_getLast? h)
  have habs : isAbsolute ⟨name ++ "/" ++ q.text⟩ = false := by
    rw [String.append_assoc, isAbsolute_append hname.ne_empty, hname.isAbsolute_eq]
  rw [hlead _ hname.isAbsolute_eq, hlead _ habs, join, hq, if_neg (by decide), if_neg]
  · simp only [String.append_assoc]
  · simpa [hname.ne_empty] using hlast

theorem isAbsolute_intercalate : ∀ {names : List String}, (∀ name ∈ names, IsName name) →
    isAbsolute ⟨"/".intercalate names⟩ = false
  | [], _ => rfl
  | [name], h => by
    simpa using (h name List.mem_cons_self).isAbsolute_eq
  | name :: next :: names, h => by
    have hname := h name List.mem_cons_self
    have htext : "/".intercalate (name :: next :: names) =
        name ++ ("/" ++ "/".intercalate (next :: names)) := by simp [String.append_assoc]
    rw [htext, isAbsolute_append hname.ne_empty, hname.isAbsolute_eq]

/-- Going down name by name leads to the same path as going down at once. -/
theorem descend_eq_join : ∀ {names : List String}, names ≠ [] → (∀ name ∈ names, IsName name) →
    ∀ p : Path, p.descend names = p.join ⟨"/".intercalate names⟩
  | [], hne, _, _ => absurd rfl hne
  | [name], _, _, p => by simp [descend]
  | name :: next :: names, _, h, p => by
    have hbelow : ∀ other ∈ next :: names, IsName other := fun other hother =>
      h other (List.mem_cons_of_mem name hother)
    have ih := descend_eq_join (List.cons_ne_nil next names) hbelow (p.join ⟨name⟩)
    have htext : "/".intercalate (name :: next :: names) =
        name ++ "/" ++ "/".intercalate (next :: names) := by simp
    rw [htext, ← join_join (q := ⟨"/".intercalate (next :: names)⟩) (h name List.mem_cons_self)
      (isAbsolute_intercalate hbelow), ← ih]
    rfl

theorem components_descend {p : Path} (hp : p.text ≠ "") {names : List String}
    (h : ∀ name ∈ names, IsName name) :
    (p.descend names).components = p.components ++ names.map .name := by
  induction names generalizing p with
  | nil => simp [descend]
  | cons name names ih =>
    have hname := h name List.mem_cons_self
    have hbelow := ih (text_join_ne_empty hp hname.isAbsolute_eq) fun other hother =>
      h other (List.mem_cons_of_mem name hother)
    rw [hname.components_join hp, List.append_assoc] at hbelow
    exact hbelow

end Path

/-- The names that lead from a directory to something below it. -/
structure Route where
  names : List String
  ne_nil : names ≠ []
  isName : ∀ name ∈ names, Path.IsName name

namespace Route

/-- The route as a path of its own. -/
def path (r : Route) : Path :=
  ⟨"/".intercalate r.names⟩

/-- A route after another one. -/
def append (d r : Route) : Route where
  names := d.names ++ r.names
  ne_nil := by simp [d.ne_nil]
  isName := List.forall_mem_append.2 ⟨d.isName, r.isName⟩

theorem eq_of_names {r s : Route} (h : r.names = s.names) : r = s := by
  cases r
  cases s
  cases h
  rfl

section Single

variable (r : Route)

theorem join_path (p : Path) : p.join r.path = p.descend r.names :=
  (Path.descend_eq_join r.ne_nil r.isName p).symm

theorem components_path : r.path.components = r.names.map .name := by
  have hsegments : r.path.segments = r.names :=
    Path.segments_intercalate r.ne_nil fun name hname => (r.isName name hname).2.2
  have hhere : r.names.head? ≠ some "." := by
    intro hhead
    exact absurd (r.isName "." (List.mem_of_mem_head? hhead)).1 (by decide)
  have habs : r.path.isAbsolute = false := Path.isAbsolute_intercalate r.isName
  rw [Path.components, habs, hsegments, List.filterMap_congr fun name hname =>
    (r.isName name hname).ofSegment?_eq, List.filterMap_eq_map']
  simp [hhere]

variable {target : Path} (htarget : target.text ≠ "")

include htarget

theorem components_join :
    (target.join r.path).components = target.components ++ r.path.components := by
  rw [join_path, Path.components_descend htarget r.isName, components_path]

/-- Relative to a target, what a route leads to is the route. -/
theorem relativeTo_join : (target.join r.path).relativeTo target = r.path := by
  have hbelow : Path.below? target (target.join r.path) = some (r.names.map .name) := by
    rw [Path.below?, List.isPrefixOf?_eq_some_iff_append_eq, r.components_join htarget,
      components_path]
  rw [Path.relativeTo, hbelow, Option.map_some, Option.getD_some, Path.ofComponents, List.map_map,
    path]
  exact congrArg (fun names => Path.mk ("/".intercalate names)) (List.map_id _)

theorem extension?_join : (target.join r.path).extension? = r.path.extension? := by
  have hne : r.path.components ≠ [] := by
    rw [components_path, ne_eq, List.map_eq_nil_iff]
    exact r.ne_nil
  rw [Path.extension?, Path.extension?, Path.fileName?, Path.fileName?, r.components_join htarget,
    List.getLast?_append_of_ne_nil _ hne]

end Single

theorem join_append (d r : Route) (p : Path) :
    p.join (d.append r).path = (p.join d.path).join r.path := by
  rw [join_path, join_path, join_path, append, Path.descend_append]

/-- Ignore patterns look at the parts of both routes. -/
theorem patternSegments_append (d r : Route) :
    Config.patternSegments (d.append r).path =
      Config.patternSegments d.path ++ Config.patternSegments r.path := by
  have htext : (d.append r).path.text.toList = d.path.text.toList ++ '/' :: r.path.text.toList := by
    rw [path, append, String.intercalate_append_of_ne_nil d.ne_nil r.ne_nil]
    simp [path]
  rw [Config.patternSegments, Text.split, htext, Text.pieces_append_cons (by decide),
    List.map_append]
  rfl

/-- A route that begins like another one is the other one or goes on from there. -/
theorem exists_eq_append {d s : Route} (h : d.path.components <+: s.path.components)
    (hne : s ≠ d) : ∃ r, s = d.append r := by
  rw [components_path, components_path] at h
  obtain ⟨rest, hrest⟩ := h
  obtain ⟨a, b, hnames, ha, -⟩ := List.map_eq_append_iff.1 hrest.symm
  have hd : a = d.names := List.map_injective_iff.2 (fun _ _ => Path.Component.name.inj) ha
  subst hd
  refine ⟨⟨b, ?_, fun name hname => s.isName name ?_⟩, eq_of_names hnames⟩
  · rintro rfl
    exact hne (eq_of_names (by rw [hnames, List.append_nil]))
  · rw [hnames]
    exact List.mem_append_right _ hname

end Route

/-! ## Trees -/

namespace Entry

/-- The entries of all directories of a tree have a property. -/
inductive Everywhere (P : List (String × Entry) → Prop) : Entry → Prop
  | file (content : Content) : Everywhere P (.file content)
  | directory {entries : List (String × Entry)} (here : P entries)
      (below : ∀ e ∈ entries, Everywhere P e.2) : Everywhere P (.directory entries)

namespace Everywhere

variable {P Q : List (String × Entry) → Prop}

theorem imp (h : ∀ entries, P entries → Q entries) {entry : Entry}
    (hentry : entry.Everywhere P) : entry.Everywhere Q := by
  induction hentry with
  | file content => exact .file content
  | directory here _ ih => exact .directory (h _ here) ih

theorem of_lookup {entries : List (String × Entry)} (h : (Entry.directory entries).Everywhere P)
    {name : String} {entry : Entry} (hlookup : entries.lookup name = some entry) :
    entry.Everywhere P := by
  cases h with
  | directory here below => exact below (name, entry) (mem_of_lookup hlookup)

theorem follow {found : Entry} : ∀ {segments : List String} {outer : List Entry} {entry : Entry},
    entry.Everywhere P → (∀ e ∈ outer, e.Everywhere P) →
      Entry.follow outer entry segments = .ok found → found.Everywhere P
  | [], _, _, hentry, _, h => by
    cases h
    exact hentry
  | s :: rest, _, .file _, _, _, h => by cases h
  | s :: rest, outer, .directory entries, hentry, houter, h => by
    rw [follow_directory_cons] at h
    split at h
    · exact follow hentry houter h
    · split at h
      · cases outer with
        | nil => exact follow hentry houter h
        | cons parent further =>
          exact follow (houter parent List.mem_cons_self)
            (fun e he => houter e (List.mem_cons_of_mem parent he)) h
      · split at h
        · cases h
        · rename_i entry hlookup
          exact follow (hentry.of_lookup hlookup) (List.forall_mem_cons.2 ⟨hentry, houter⟩) h

theorem find {fs : FileSystem} (h : fs.root.Everywhere P) {p : Path} {entry : Entry}
    (hfind : fs.find p = .ok entry) : entry.Everywhere P := by
  rw [FileSystem.find_of_text_ne (FileSystem.text_ne_of_find hfind)] at hfind
  exact h.follow (by simp) hfind

end Everywhere

/-- What stands at the end of some names in a tree. -/
def at? : Entry → List String → Option Entry
  | entry, [] => some entry
  | .file _, _ :: _ => none
  | .directory entries, name :: rest => (entries.lookup name).bind (at? · rest)

mutual

/-- The names that lead to the files of a tree, in the order of the directories. -/
def fileNames : Entry → List (List String)
  | .file _ => [[]]
  | .directory entries => fileNamesAmong entries

/-- The names that lead to the files at or below the entries of a directory. -/
def fileNamesAmong : List (String × Entry) → List (List String)
  | [] => []
  | (name, entry) :: rest => entry.fileNames.map (name :: ·) ++ fileNamesAmong rest

end

theorem fileNamesAmong_eq : ∀ entries : List (String × Entry),
    fileNamesAmong entries = entries.flatMap fun e => e.2.fileNames.map (e.1 :: ·)
  | [] => by rw [fileNamesAmong, List.flatMap_nil]
  | (name, entry) :: rest => by
    rw [fileNamesAmong, fileNamesAmong_eq rest, List.flatMap_cons]

theorem fileNames_directory (entries : List (String × Entry)) :
    (directory entries).fileNames = entries.flatMap fun e => e.2.fileNames.map (e.1 :: ·) := by
  rw [fileNames, fileNamesAmong_eq]

section Listing

variable {entry : Entry} (h : entry.Everywhere IsListing)

include h

/-- The names that lead to files are those at the end of which a file stands. -/
theorem mem_fileNames_iff {names : List String} :
    names ∈ entry.fileNames ↔ ∃ content, entry.at? names = some (.file content) := by
  induction h generalizing names with
  | file content => cases names <;> simp [fileNames, at?]
  | directory here below ih =>
    rw [fileNames_directory, List.mem_flatMap]
    cases names with
    | nil => simp [at?]
    | cons name rest =>
      simp only [at?, List.mem_map, List.cons.injEq, Option.bind_eq_some_iff,
        here.lookup_eq_some_iff]
      constructor
      · rintro ⟨⟨_, e⟩, he, names, hnames, rfl, rfl⟩
        obtain ⟨content, hcontent⟩ := (ih _ he).1 hnames
        exact ⟨content, e, he, hcontent⟩
      · rintro ⟨content, e, he, hcontent⟩
        exact ⟨(name, e), he, rest, (ih _ he).2 ⟨content, hcontent⟩, rfl, rfl⟩

theorem isName_of_mem_fileNames {names : List String} (hnames : names ∈ entry.fileNames) :
    ∀ name ∈ names, Path.IsName name := by
  induction h generalizing names with
  | file content => simp_all [fileNames]
  | directory here below ih =>
    rw [fileNames_directory, List.mem_flatMap] at hnames
    obtain ⟨e, he, hnames⟩ := hnames
    obtain ⟨rest, hrest, rfl⟩ := List.mem_map.1 hnames
    exact List.forall_mem_cons.2 ⟨here.named e he, ih e he hrest⟩

/-- No file is met twice. -/
theorem nodup_fileNames : entry.fileNames.Nodup := by
  induction h with
  | file content => simp [fileNames]
  | directory here below ih =>
    rw [fileNames_directory, List.nodup_flatMap]
    refine ⟨fun e he => (ih e he).map List.cons_injective, ?_⟩
    -- names below different entries differ in the first one
    refine (List.pairwise_map.1 here.distinct).imp fun {a b} hne => ?_
    refine List.disjoint_left.2 fun names ha hb => ?_
    obtain ⟨_, -, rfl⟩ := List.mem_map.1 ha
    obtain ⟨_, -, heq⟩ := List.mem_map.1 hb
    injection heq with hname
    exact hne hname.symm

end Listing

/-- A file that is not the tree itself is reached by a route. -/
theorem exists_routes {entries : List (String × Entry)}
    (h : (directory entries).Everywhere IsListing) :
    ∃ routes : List Route, (directory entries).fileNames = routes.map Route.names := by
  have hroute : ∀ names ∈ (directory entries).fileNames,
      names ≠ [] ∧ ∀ name ∈ names, Path.IsName name := by
    intro names hnames
    refine ⟨?_, isName_of_mem_fileNames h hnames⟩
    rintro rfl
    simp [fileNames_directory] at hnames
  refine ⟨(directory entries).fileNames.pmap (fun names h => ⟨names, h.1, h.2⟩) hroute, ?_⟩
  rw [List.map_pmap, List.pmap_eq_map, List.map_id']

end Entry

/-- **What is found below a path is what stands in the tree at the path.** -/
theorem FileSystem.find_descend_eq_ok_iff (fs : FileSystem) {names : List String}
    (h : ∀ name ∈ names, Path.IsName name) {p : Path} (hp : p.text ≠ "") {found : Entry} :
    fs.find (p.descend names) = .ok found ↔
      ∃ entry, fs.find p = .ok entry ∧ entry.at? names = some found := by
  induction names generalizing p with
  | nil => simp [Path.descend, Entry.at?]
  | cons name names ih =>
    have hname := h name List.mem_cons_self
    have hbelow := ih (fun other hother => h other (List.mem_cons_of_mem name hother))
      (Path.text_join_ne_empty hp hname.isAbsolute_eq)
    refine hbelow.trans ?_
    simp only [fs.find_join_eq_ok_iff hp hname]
    constructor
    · rintro ⟨entry, ⟨entries, hdirectory, hlookup⟩, hat⟩
      exact ⟨_, hdirectory, by rw [Entry.at?, hlookup, Option.bind_some, hat]⟩
    · rintro ⟨entry, hentry, hat⟩
      cases entry with
      | file content => cases hat
      | directory entries =>
        obtain ⟨e, hlookup, hat⟩ := Option.bind_eq_some_iff.1 hat
        exact ⟨e, ⟨entries, hentry, hlookup⟩, hat⟩

/-! ## Directories without ignore files -/

/-- A directory that holds no ignore file and is no repository. -/
structure Entry.IsPlain (entries : List (String × Entry)) : Prop extends IsListing entries where
  no_repository : ∀ e ∈ entries, e.1 = ".git" → e.2.isDirectory = false
  no_ignoreFile : ∀ e ∈ entries, e.1 = ".ignore" ∨ e.1 = ".gitignore" → e.2.isDirectory = true

instance {entries : List (String × Entry)} : Decidable (Entry.IsPlain entries) :=
  decidable_of_iff (Entry.IsListing entries ∧
      (∀ e ∈ entries, e.1 = ".git" → e.2.isDirectory = false) ∧
      ∀ e ∈ entries, e.1 = ".ignore" ∨ e.1 = ".gitignore" → e.2.isDirectory = true)
    ⟨fun h => ⟨h.1, h.2.1, h.2.2⟩, fun h => ⟨h.toIsListing, h.no_repository, h.no_ignoreFile⟩⟩

namespace IgnoreScope

/-- There is no rule. -/
structure IsSilent (scope : IgnoreScope) : Prop where
  plain : scope.plain = []
  tracked : scope.tracked = []
  excluded : scope.excluded = []

variable {entries : List (String × Entry)}

theorem rulesAt_eq_nil {name : String} (hname : Path.IsName name)
    (h : ∀ e ∈ entries, e.1 = name → e.2.isDirectory = true) :
    rulesAt (.directory entries) [name] = [] := by
  rw [rulesAt]
  split
  · rename_i text hfollow
    rw [← List.nil_append [name], Entry.follow_concat_name_iff hname] at hfollow
    obtain ⟨found, hfound, hlookup⟩ := hfollow
    cases hfound
    cases h _ (Entry.mem_of_lookup hlookup) rfl
  · rfl

theorem rulesAt_exclude_eq_nil (h : ∀ e ∈ entries, e.1 = ".git" → e.2.isDirectory = false) :
    rulesAt (.directory entries) [".git", "info", "exclude"] = [] := by
  rw [rulesAt, Entry.follow_directory_cons, if_neg (by decide), if_neg (by decide)]
  cases hlookup : entries.lookup ".git" with
  | none => rfl
  | some entry =>
    cases entry with
    | file content => rfl
    | directory inner => cases h _ (Entry.mem_of_lookup hlookup) rfl

theorem isSilent_ofEntry (h : Entry.IsPlain entries) :
    (ofEntry (.directory entries)).IsSilent where
  plain := rulesAt_eq_nil (by decide) fun e he hname => h.no_ignoreFile e he (.inl hname)
  tracked := rulesAt_eq_nil (by decide) fun e he hname => h.no_ignoreFile e he (.inr hname)
  excluded := rulesAt_exclude_eq_nil h.no_repository

end IgnoreScope

namespace IgnoreChain

/-- No directory of the chain has a rule. -/
def IsSilent (chain : IgnoreChain) : Prop :=
  ∀ link ∈ chain, link.1.IsSilent

theorem withinRepository_subset : ∀ chain : IgnoreChain, chain.withinRepository ⊆ chain
  | [] => List.Subset.refl _
  | link :: outer => by
    have ih := withinRepository_subset outer
    rw [withinRepository]
    split
    · simp
    · split
      · simp
      · exact List.cons_subset_cons link ih

theorem verdict?_eq_none {chain : IgnoreChain} {rules : IgnoreScope → List IgnoreRule}
    (h : ∀ link ∈ chain, rules link.1 = []) (isDirectory : Bool) :
    chain.verdict? rules isDirectory = none := by
  refine List.findSome?_eq_none_iff.2 fun link hlink => ?_
  rw [h link hlink]
  rfl

namespace IsSilent

variable {chain : IgnoreChain} (h : chain.IsSilent)

include h

theorem below (name : String) : (chain.below name).IsSilent := by
  intro link hlink
  obtain ⟨link, hmem, rfl⟩ := List.mem_map.1 hlink
  exact h link hmem

theorem enter {entries : List (String × Entry)} (hplain : Entry.IsPlain entries) :
    (chain.enter (.directory entries)).IsSilent :=
  List.forall_mem_cons.2 ⟨IgnoreScope.isSilent_ofEntry hplain, h⟩

theorem along {names : List String} {entry : Entry} (hentry : entry.Everywhere Entry.IsPlain) :
    (IgnoreChain.along chain entry names).IsSilent := by
  induction names generalizing chain entry with
  | nil => cases entry <;> exact h
  | cons name rest ih =>
    cases hentry with
    | file content => exact h
    | directory here below =>
      rw [IgnoreChain.along]
      split
      · rename_i entry hlookup
        have hfound := (Entry.Everywhere.directory here below).of_lookup hlookup
        exact ih ((h.enter here).below name) hfound
      · exact h

/-- **Where there is no rule, nothing is ignored.** -/
theorem ignores_eq_false (isDirectory : Bool) : chain.ignores isDirectory = false := by
  have hinside := chain.withinRepository_subset
  rw [ignores, verdict?_eq_none fun link hlink => (h link hlink).plain,
    verdict?_eq_none fun link hlink => (h link (hinside hlink)).tracked,
    verdict?_eq_none fun link hlink => (h link (hinside hlink)).excluded]
  rfl

end IsSilent

end IgnoreChain

/-! ## The walk -/

namespace Discovery

theorem filesAmong_eq {chain : IgnoreChain} (hchain : chain.IsSilent) (directory : Path) :
    ∀ {entries : List (String × Entry)},
      (∀ e ∈ entries, ∀ {chain : IgnoreChain}, chain.IsSilent → ∀ p,
        filesBelow chain p e.2 = e.2.fileNames.map p.descend) →
      filesAmong chain directory entries = (Entry.fileNamesAmong entries).map directory.descend
  | [], _ => by rw [filesAmong, Entry.fileNamesAmong, List.map_nil]
  | (name, entry) :: rest, h => by
    have ih := filesAmong_eq hchain directory fun e he => h e (List.mem_cons_of_mem _ he)
    have hplace := hchain.below name
    rw [filesAmong, hplace.ignores_eq_false, ih, Entry.fileNamesAmong, List.map_append,
      List.map_map, if_neg (by decide), h _ List.mem_cons_self hplace]
    rfl

theorem filesBelow_eq {entry : Entry} (h : entry.Everywhere Entry.IsPlain) {chain : IgnoreChain}
    (hchain : chain.IsSilent) (p : Path) :
    filesBelow chain p entry = entry.fileNames.map p.descend := by
  induction h generalizing chain p with
  | file content =>
    rw [filesBelow, Entry.fileNames]
    rfl
  | directory here below ih =>
    rw [filesBelow, Entry.fileNames]
    exact filesAmong_eq (hchain.enter here) p fun e he {_} hchain p => ih e he hchain p

theorem walk_eq {fs : FileSystem} (h : fs.root.Everywhere Entry.IsPlain) {target : Path}
    {entry : Entry} (hentry : fs.find target = .ok entry) :
    walk fs target = entry.fileNames.map target.descend := by
  have hstart : IgnoreChain.IsSilent [] := by simp [IgnoreChain.IsSilent]
  rw [walk, hentry]
  exact filesBelow_eq (h.find hentry) (hstart.along h) target

end Discovery

/-! ## What is wanted, and in which order -/

theorem Config.shouldIgnore_eq_false_iff (config : Config) (p : Path) :
    config.shouldIgnore p = false ↔
      (∃ ext ∈ config.fileExtensions, p.extension? = some ext) ∧
      ∀ part ∈ patternSegments p, part ∉ config.ignorePatterns := by
  have hextension : config.hasExtension p = true ↔
      ∃ ext ∈ config.fileExtensions, p.extension? = some ext := by
    rw [hasExtension]
    cases p.extension? <;> simp
  rw [← hextension]
  simp only [shouldIgnore, Bool.or_eq_false_iff, Bool.not_eq_false', List.any_eq_false,
    List.contains_iff_mem]
  exact and_congr_right fun _ => ⟨fun h part hpart hpattern => h part hpattern hpart,
    fun h pattern hpattern hpart => h pattern hpart hpattern⟩

namespace Path

theorem compareComponents_append (lead a b : List Component) :
    compareComponents (lead ++ a) (lead ++ b) = compareComponents a b := by
  induction lead with
  | nil => rfl
  | cons c lead ih =>
    have hself : c.compare c = .eq := Std.ReflCmp.compare_self
    rw [List.cons_append, List.cons_append, compareComponents, hself, ih]
    rfl

/-- The order of what lies below a target does not depend on the target. -/
theorem le_join {target : Path} (htarget : target.text ≠ "") (r s : Route) :
    (target.join r.path).le (target.join s.path) = r.path.le s.path := by
  rw [le, le, compare, compare, r.components_join htarget, s.components_join htarget,
    compareComponents_append]

/-- Paths in strict order are determined by which ones they are. -/
theorem eq_of_mem_iff {a b : List Path} (ha : a.Pairwise fun p q => p.compare q = .lt)
    (hb : b.Pairwise fun p q => p.compare q = .lt) (h : ∀ q, q ∈ a ↔ q ∈ b) : a = b := by
  have hasymm : ∀ {p q : Path}, p.compare q = .lt → q.compare p = .lt → p = q := by
    intro p q hpq hqp
    rw [compare_swap, hpq] at hqp
    cases hqp
  have hnodup : ∀ {paths : List Path}, (paths.Pairwise fun p q => p.compare q = .lt) →
      paths.Nodup := by
    intro paths hpaths
    refine hpaths.imp fun {p q} hpq => ?_
    rintro rfl
    have hswap := compare_swap p p
    rw [hpq] at hswap
    cases hswap
  exact ((List.perm_ext_iff_of_nodup (hnodup ha) (hnodup hb)).2 h).eq_of_pairwise
    (fun _ _ _ _ => hasymm) ha hb

end Path

/-! ## What is found -/

namespace Discovery

section Routes

variable {fs : FileSystem} {config : Config} {target : Path} {entries : List (String × Entry)}
  {routes : List Route} (hplain : fs.root.Everywhere Entry.IsPlain)
  (hentry : fs.find target = .ok (.directory entries))
  (hroutes : (Entry.directory entries).fileNames = routes.map Route.names)

include hplain hentry hroutes

theorem mem_routes_iff (r : Route) : r ∈ routes ↔ fs.isFile (target.join r.path) = true := by
  have hlisting := (hplain.find hentry).imp fun _ h => h.toIsListing
  have hmem : r ∈ routes ↔ r.names ∈ (Entry.directory entries).fileNames := by
    rw [hroutes, List.mem_map]
    exact ⟨fun h => ⟨r, h, rfl⟩, fun ⟨s, hs, hnames⟩ => Route.eq_of_names hnames ▸ hs⟩
  rw [hmem, Entry.mem_fileNames_iff hlisting, FileSystem.isFile_iff, r.join_path]
  simp only [fs.find_descend_eq_ok_iff r.isName (FileSystem.text_ne_of_find hentry), hentry]
  simp

/-- The sources are what the routes lead to, as far as it is wanted. -/
theorem discover_eq :
    discover fs config target =
      ((routes.filter fun r => !config.shouldIgnore r.path).map fun r =>
        target.join r.path).mergeSort Path.le := by
  have htarget := FileSystem.text_ne_of_find hentry
  have hnofile : fs.isFile target = false := by
    rw [FileSystem.isFile, hentry]
  have hwalk : walk fs target = routes.map fun r => target.join r.path := by
    rw [walk_eq hplain hentry, hroutes, List.map_map]
    exact List.map_congr_left fun r _ => (r.join_path target).symm
  have hkept : routes.filter ((fun path => !config.shouldIgnore (path.relativeTo target)) ∘
      fun r => target.join r.path) = routes.filter fun r => !config.shouldIgnore r.path := by
    refine List.filter_congr fun r _ => ?_
    rw [Function.comp_apply, r.relativeTo_join htarget]
  rw [discover, hnofile, if_neg (by decide), hwalk, List.filter_map, hkept]

/-- Relative to the target, nothing of the target is left. -/
theorem map_relativeTo_discover :
    (discover fs config target).map (·.relativeTo target) =
      ((routes.filter fun r => !config.shouldIgnore r.path).map Route.path).mergeSort Path.le := by
  have htarget := FileSystem.text_ne_of_find hentry
  rw [discover_eq hplain hentry hroutes, List.map_mergeSort (s := Path.le), List.map_map]
  · congr 1
    exact List.map_congr_left fun r _ => r.relativeTo_join htarget
  · intro p hp q hq
    obtain ⟨r, -, rfl⟩ := List.mem_map.1 hp
    obtain ⟨s, -, rfl⟩ := List.mem_map.1 hq
    rw [r.relativeTo_join htarget, s.relativeTo_join htarget, Path.le_join htarget]

theorem nodup_components_discover :
    ((discover fs config target).map Path.components).Nodup := by
  have htarget := FileSystem.text_ne_of_find hentry
  have hlisting := (hplain.find hentry).imp fun _ h => h.toIsListing
  have hnodup : routes.Nodup := by
    have hnames := Entry.nodup_fileNames hlisting
    rw [hroutes] at hnames
    exact hnames.of_map
  have hinj : Function.Injective fun r : Route => (target.join r.path).components := by
    intro r s h
    simp only [Route.components_join _ htarget, Route.components_path,
      List.append_cancel_left_eq] at h
    exact Route.eq_of_names (List.map_injective_iff.2 (fun _ _ => Path.Component.name.inj) h)
  rw [discover_eq hplain hentry hroutes, ((List.mergeSort_perm _ _).map _).nodup_iff, List.map_map]
  exact (hnodup.filter _).map hinj

end Routes

section Directory

variable {fs : FileSystem} {target : Path} (hplain : fs.root.Everywhere Entry.IsPlain)
  (hdirectory : fs.isDirectory target = true)

include hplain hdirectory

theorem exists_entries_routes : ∃ (entries : List (String × Entry)) (routes : List Route),
    fs.find target = .ok (.directory entries) ∧
      (Entry.directory entries).fileNames = routes.map Route.names := by
  obtain ⟨entries, hentry⟩ := FileSystem.isDirectory_iff.1 hdirectory
  have hlisting := (hplain.find hentry).imp fun _ h => h.toIsListing
  obtain ⟨routes, hroutes⟩ := Entry.exists_routes hlisting
  exact ⟨entries, routes, hentry, hroutes⟩

variable (config : Config)

theorem mem_discover_iff (q : Path) :
    q ∈ discover fs config target ↔ ∃ r : Route, q = target.join r.path ∧ fs.isFile q = true ∧
      (∃ ext ∈ config.fileExtensions, q.extension? = some ext) ∧
      ∀ part ∈ Config.patternSegments r.path, part ∉ config.ignorePatterns := by
  obtain ⟨entries, routes, hentry, hroutes⟩ := exists_entries_routes hplain hdirectory
  have htarget := FileSystem.text_ne_of_find hentry
  rw [discover_eq hplain hentry hroutes, List.mem_mergeSort, List.mem_map]
  simp only [List.mem_filter, mem_routes_iff hplain hentry hroutes, Bool.not_eq_true',
    config.shouldIgnore_eq_false_iff]
  refine exists_congr fun r => ?_
  constructor
  · rintro ⟨⟨hfile, hextension, hparts⟩, rfl⟩
    rw [← r.extension?_join htarget] at hextension
    exact ⟨rfl, hfile, hextension, hparts⟩
  · rintro ⟨rfl, hfile, hextension, hparts⟩
    rw [r.extension?_join htarget] at hextension
    exact ⟨⟨hfile, hextension, hparts⟩, rfl⟩

theorem pairwise_discover :
    (discover fs config target).Pairwise fun p q => p.compare q = .lt := by
  obtain ⟨entries, routes, hentry, hroutes⟩ := exists_entries_routes hplain hdirectory
  have hsorted : (discover fs config target).Pairwise fun p q => p.le q = true := by
    rw [discover_eq hplain hentry hroutes]
    refine List.pairwise_mergeSort ?_ ?_ _
    · intro p q r hpq hqr
      exact Path.le_trans hpq hqr
    · intro p q
      exact Path.le_total p q
  have hdistinct : (discover fs config target).Pairwise fun p q => p.components ≠ q.components :=
    List.pairwise_map.1 (nodup_components_discover hplain hentry hroutes)
  refine (hsorted.and hdistinct).imp ?_
  rintro p q ⟨hle, hne⟩
  exact Path.compare_eq_lt hle hne

/-- A directory below the target, if no pattern is on the way to it, has the sources of the target
    that lie below it. -/
theorem mem_discover_join_iff (d : Route) (hbelow : fs.isDirectory (target.join d.path) = true)
    (hparts : ∀ part ∈ Config.patternSegments d.path, part ∉ config.ignorePatterns) (q : Path) :
    q ∈ discover fs config (target.join d.path) ↔
      q ∈ discover fs config target ∧ (target.join d.path).components <+: q.components := by
  obtain ⟨entries, hentry⟩ := FileSystem.isDirectory_iff.1 hdirectory
  obtain ⟨inner, hinner⟩ := FileSystem.isDirectory_iff.1 hbelow
  have htarget := FileSystem.text_ne_of_find hentry
  have hplace := FileSystem.text_ne_of_find hinner
  rw [mem_discover_iff hplain hdirectory, mem_discover_iff hplain hbelow]
  constructor
  · rintro ⟨r, rfl, hfile, hextension, hrest⟩
    refine ⟨⟨d.append r, (d.join_append r target).symm, hfile, hextension, ?_⟩, ?_⟩
    · rw [d.patternSegments_append r]
      exact List.forall_mem_append.2 ⟨hparts, hrest⟩
    · rw [r.components_join hplace]
      exact List.prefix_append _ _
  · rintro ⟨⟨s, rfl, hfile, hextension, hkept⟩, hlead⟩
    rw [d.components_join htarget, s.components_join htarget, List.prefix_append_right_inj] at hlead
    have hne : s ≠ d := by
      rintro rfl
      obtain ⟨content, hcontent⟩ := FileSystem.isFile_iff.1 hfile
      rw [hinner] at hcontent
      cases hcontent
    obtain ⟨r, rfl⟩ := Route.exists_eq_append hlead hne
    refine ⟨r, d.join_append r target, hfile, hextension, ?_⟩
    rw [d.patternSegments_append r] at hkept
    exact (List.forall_mem_append.1 hkept).2

/-- **The sources of a directory.**  Take a file system without repositories and ignore files, and
    any configuration.  The sources of a target that is a directory are the files to which a route
    leads from it, if they have a configured extension and no part of the route, cut at slashes and
    backslashes, is an ignore pattern.  They are in strict order, by components.

    What the target is called and where it stands has no influence: another target with the same
    tree has the same sources relative to it.  And a directory below the target that itself is not
    ignored has just the sources of the target that lie below it. -/
theorem discover_exact :
    (∀ q, q ∈ discover fs config target ↔
      ∃ r : Route, q = target.join r.path ∧ fs.isFile q = true ∧
        (∃ ext ∈ config.fileExtensions, q.extension? = some ext) ∧
        ∀ part ∈ Config.patternSegments r.path, part ∉ config.ignorePatterns) ∧
    (discover fs config target).Pairwise (fun p q => p.compare q = .lt) ∧
    (∀ (fs' : FileSystem) (target' : Path), fs'.root.Everywhere Entry.IsPlain →
      fs'.find target' = fs.find target →
        (discover fs' config target').map (·.relativeTo target') =
          (discover fs config target).map (·.relativeTo target)) ∧
    ∀ d : Route, fs.isDirectory (target.join d.path) = true →
      (∀ part ∈ Config.patternSegments d.path, part ∉ config.ignorePatterns) →
        discover fs config (target.join d.path) = (discover fs config target).filter fun q =>
          (target.join d.path).components <+: q.components := by
  have hstrict := pairwise_discover hplain hdirectory config
  refine ⟨mem_discover_iff hplain hdirectory config, hstrict, ?_, ?_⟩
  · intro fs' target' hplain' hsame
    obtain ⟨entries, routes, hentry, hroutes⟩ := exists_entries_routes hplain hdirectory
    rw [map_relativeTo_discover hplain hentry hroutes,
      map_relativeTo_discover hplain' (hsame.trans hentry) hroutes]
  · intro d hbelow hparts
    refine Path.eq_of_mem_iff (pairwise_discover hplain hbelow config) (hstrict.filter _)
      fun q => ?_
    rw [mem_discover_join_iff hplain hdirectory config d hbelow hparts, List.mem_filter,
      decide_eq_true_iff]

end Directory

/-- The target has the name of a pattern, which counts only below the target. -/
theorem discover_exact_nested :
    let fs : FileSystem := { root := .directory [("vendor", .directory [("a", .directory [
      ("vendor", .directory [("y.php", .file .binary)]), ("x.php", .file .binary)])])] }
    let config : Config := { ignorePatterns := ["vendor"] }
    fs.root.Everywhere Entry.IsPlain ∧ fs.isDirectory ⟨"./vendor/"⟩ = true ∧
      ⟨"./vendor/a/x.php"⟩ ∈ discover fs config ⟨"./vendor/"⟩ ∧
      ⟨"./vendor/a/vendor/y.php"⟩ ∉ discover fs config ⟨"./vendor/"⟩ ∧
      discover fs config ⟨"./vendor/a"⟩ = (discover fs config ⟨"./vendor/"⟩).filter fun q =>
        Path.components ⟨"./vendor/a"⟩ <+: q.components := by
  intro fs config
  have hfile : Entry.Everywhere Entry.IsPlain (.file .binary) := .file .binary
  have hplain : fs.root.Everywhere Entry.IsPlain := by
    refine .directory (by decide +kernel) (List.forall_mem_singleton.2 ?_)
    refine .directory (by decide +kernel) (List.forall_mem_singleton.2 ?_)
    refine .directory (by decide +kernel) (List.forall_mem_cons.2
      ⟨?_, List.forall_mem_singleton.2 hfile⟩)
    exact .directory (by decide +kernel) (List.forall_mem_singleton.2 hfile)
  have hdirectory : fs.isDirectory ⟨"./vendor/"⟩ = true := by decide +kernel
  obtain ⟨hmem, -, -, hbelow⟩ := discover_exact hplain hdirectory config
  refine ⟨hplain, hdirectory, (hmem _).2 ⟨⟨["a", "x.php"], by decide, by decide +kernel⟩, ?_⟩,
    ?_, ?_⟩
  · decide +kernel
  · intro hfound
    obtain ⟨r, hr, -, -, hparts⟩ := (hmem _).1 hfound
    have hpath : (Path.join ⟨"./vendor/"⟩ r.path).relativeTo ⟨"./vendor/"⟩ = r.path :=
      r.relativeTo_join (by decide)
    rw [← hr] at hpath
    refine hparts "vendor" ?_ (by decide)
    rw [← hpath]
    decide +kernel
  · exact hbelow ⟨["a"], by decide, by decide +kernel⟩ (by decide +kernel) (by decide +kernel)

end Discovery

end LayerLint
