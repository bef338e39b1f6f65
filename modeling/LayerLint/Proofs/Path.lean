import LayerLint.FileSystem
import LayerLint.Proofs.Text

/-!
# Paths that stand for the same place

Two written paths stand for the same place if their components are equal: slashes at the end, doubled
slashes and inner single dots make no difference.  The file system agrees with this as long as
something is looked up *below* the place:

* `components_join` — the components of a joined path are those of its parts, one after another;
* `exists_parent?` — the parent of what a name leads to below a place is that place;
* `find_join_congr` — below two paths with equal components the same entries are found;
* `list_congr` — as directories, two paths with equal components list the same entries;
* `find_join_eq_ok_iff`, `find_join_of_mem` — what a directory lists is found in it;
* `le_total`, `le_trans` — the order by components is one that lists can be sorted by, and
  `compare_eq_lt` — different places have different ranks in it.

A path on its own is another matter: a slash after the name of a file makes the lookup fail.
-/

set_option autoImplicit false

namespace LayerLint

/-! ## Segments -/

namespace Path

/-- The segments that name a step of a path. -/
def steps (segments : List String) : List String :=
  segments.filter fun s => !isVoid s

theorem steps_append (a b : List String) : steps (a ++ b) = steps a ++ steps b := by
  simp [steps]

theorem segments_ne_nil (p : Path) : p.segments ≠ [] := by
  simp [segments, Text.split, Text.pieces_ne_nil]

theorem segments_append_slash (a b : String) :
    segments ⟨a ++ "/" ++ b⟩ = segments ⟨a⟩ ++ segments ⟨b⟩ := by
  have hsplit : (a ++ "/" ++ b).toList = a.toList ++ '/' :: b.toList := by simp
  simp only [segments, Text.split, hsplit]
  rw [Text.pieces_append_cons (by rfl)]
  simp

theorem segments_eq_singleton {s : String} (h : '/' ∉ s.toList) : segments ⟨s⟩ = [s] := by
  have hpieces : Text.pieces (· == '/') s.toList = [s.toList] := by
    refine Text.pieces_eq_singleton fun c hc => ?_
    rw [beq_eq_false_iff_ne]
    exact fun heq => h (heq ▸ hc)
  simp [segments, Text.split, hpieces]

/-- Names without slashes are the segments of the path that they are put together to. -/
theorem segments_intercalate : ∀ {names : List String}, names ≠ [] →
    (∀ name ∈ names, '/' ∉ name.toList) → segments ⟨"/".intercalate names⟩ = names
  | [], hne, _ => absurd rfl hne
  | [name], _, h => by
    simpa using segments_eq_singleton (h name List.mem_cons_self)
  | name :: next :: names, _, h => by
    have ih := segments_intercalate (List.cons_ne_nil next names) fun other hother =>
      h other (List.mem_cons_of_mem _ hother)
    have htext : "/".intercalate (name :: next :: names) =
        name ++ "/" ++ "/".intercalate (next :: names) := by simp
    rw [htext, segments_append_slash, ih, segments_eq_singleton (h name List.mem_cons_self)]
    rfl

/-- The segments of a path with slashes between them are the path again. -/
theorem intercalate_segments (p : Path) : "/".intercalate p.segments = p.text := by
  have hchars : String.toList ∘ String.ofList = id := funext fun cs => String.toList_ofList
  rw [← String.toList_inj, String.toList_intercalate, segments, Text.split, List.map_map, hchars,
    List.map_id, Text.pieces_eq_splitOnP]
  exact List.intercalate_splitOn '/'

theorem length_segments (s : String) :
    (segments ⟨s⟩).length = s.toList.countP (· == '/') + 1 := by
  rw [segments, Text.split, List.length_map, Text.length_pieces]

theorem slash_not_mem_pieces : ∀ (cs : List Char), ∀ piece ∈ Text.pieces (· == '/') cs, '/' ∉ piece
  | [], piece, h => by simp_all [Text.pieces]
  | c :: cs, piece, h => by
    have ih := slash_not_mem_pieces cs
    obtain ⟨first, rest, hpieces⟩ := List.exists_cons_of_ne_nil (Text.pieces_ne_nil (· == '/') cs)
    by_cases hc : c = '/'
    · simp only [Text.pieces, hc, beq_self_eq_true, if_true, List.mem_cons] at h
      rcases h with rfl | h
      · exact List.not_mem_nil
      · exact ih piece h
    · simp only [Text.pieces, beq_iff_eq, if_neg hc, hpieces, List.mem_cons] at h ih
      rcases h with rfl | h
      · simpa [Ne.symm hc] using ih first (.inl rfl)
      · exact ih piece (.inr h)

theorem slash_not_mem_segments {p : Path} : ∀ s ∈ p.segments, '/' ∉ s.toList := by
  intro s hs
  obtain ⟨piece, hpiece, rfl⟩ := List.mem_map.1 hs
  simpa using slash_not_mem_pieces _ piece hpiece

/-- A path that ends in a slash is written as what stands before that slash. -/
theorem exists_eq_append_slash {s : String} (h : s.toList.getLast? = some '/') :
    ∃ a : String, s = a ++ "/" := by
  obtain ⟨cs, hcs⟩ := List.getLast?_eq_some_iff.1 h
  refine ⟨String.ofList cs, ?_⟩
  rw [← String.toList_inj]
  simp [hcs]

theorem join_of_isAbsolute (p : Path) {q : Path} (hq : q.isAbsolute = true) : p.join q = q := by
  simp [join, hq]

/-- The segments of a joined path end with those of its second part, and the steps before them are
    those of its first part. -/
theorem segments_join {p q : Path} (hp : p.text ≠ "") (hq : q.isAbsolute = false) :
    ∃ lead, (p.join q).segments = lead ++ q.segments ∧
      lead.head? = p.segments.head? ∧ steps lead = steps p.segments := by
  obtain ⟨s⟩ := p
  obtain ⟨t⟩ := q
  by_cases hend : s.toList.getLast? = some '/'
  · obtain ⟨a, rfl⟩ := exists_eq_append_slash hend
    have hself : segments ⟨a ++ "/"⟩ = segments ⟨a⟩ ++ [""] := by
      simpa [segments, Text.split, Text.pieces] using segments_append_slash a ""
    refine ⟨segments ⟨a⟩, ?_, ?_, ?_⟩
    · have hjoin : join ⟨a ++ "/"⟩ ⟨t⟩ = ⟨a ++ "/" ++ t⟩ := by simp [join, hq]
      rw [hjoin, segments_append_slash]
    · obtain ⟨first, rest, hfirst⟩ := List.exists_cons_of_ne_nil (segments_ne_nil ⟨a⟩)
      rw [hself, hfirst]
      rfl
    · rw [hself, steps_append]
      simp [steps, isVoid]
  · refine ⟨segments ⟨s⟩, ?_, rfl, rfl⟩
    have hjoin : join ⟨s⟩ ⟨t⟩ = ⟨s ++ "/" ++ t⟩ := by
      simp only [join, hq]
      simp_all
    rw [hjoin, segments_append_slash]

theorem isAbsolute_join {p q : Path} (hp : p.text ≠ "") (hq : q.isAbsolute = false) :
    (p.join q).isAbsolute = p.isAbsolute := by
  obtain ⟨s⟩ := p
  obtain ⟨c, cs, hcs⟩ := List.exists_cons_of_ne_nil (mt String.toList_eq_nil_iff.1 hp)
  simp only at hcs
  simp only [join, hq, Bool.false_eq_true, if_false]
  split <;> simp [isAbsolute, Text.startsWith, hcs, List.isPrefixOf]

theorem text_join_ne_empty {p q : Path} (hp : p.text ≠ "") (hq : q.isAbsolute = false) :
    (p.join q).text ≠ "" := by
  simp only [join, hq, Bool.false_eq_true, if_false]
  split <;> simp [hp]

/-! ## Components -/

theorem filterMap_ofSegment_steps : ∀ segments : List String,
    segments.filterMap Component.ofSegment? = (steps segments).filterMap Component.ofSegment?
  | [] => rfl
  | s :: rest => by
    have ih := filterMap_ofSegment_steps rest
    by_cases hs : isVoid s = true
    · have hnone : Component.ofSegment? s = none := by
        simp only [isVoid] at hs
        simp [Component.ofSegment?, hs]
      simp [hnone, ih, steps, hs]
    · have hsteps : steps (s :: rest) = s :: steps rest := by simp [steps, hs]
      rw [hsteps, List.filterMap_cons, List.filterMap_cons, ih]

/-- The components of a path are a mark for where it starts, and its steps. -/
theorem components_eq (p : Path) :
    p.components =
      (if p.isAbsolute then [.root] else if p.segments.head? == some "." then [.here] else []) ++
        (steps p.segments).filterMap Component.ofSegment? := by
  rw [components, filterMap_ofSegment_steps]

theorem components_join {p q : Path} (hp : p.text ≠ "") (hq : q.isAbsolute = false) :
    (p.join q).components = p.components ++ (steps q.segments).filterMap Component.ofSegment? := by
  obtain ⟨lead, hsegments, hhead, hsteps⟩ := segments_join hp hq
  have hfirst : (p.join q).segments.head? = p.segments.head? := by
    rw [hsegments, ← hhead]
    cases lead with
    | nil => exact absurd (List.head?_eq_none_iff.1 hhead.symm) (segments_ne_nil p)
    | cons s lead => rfl
  rw [components_eq, components_eq p, isAbsolute_join hp hq, hfirst, hsegments, steps_append, hsteps,
    List.filterMap_append, List.append_assoc]

/-- Two paths with the same start and the same steps stand for the same place. -/
theorem components_congr {p q : Path} (habs : p.isAbsolute = q.isAbsolute)
    (hhead : p.segments.head? = q.segments.head?) (hsteps : steps p.segments = steps q.segments) :
    p.components = q.components := by
  rw [components_eq, components_eq, habs, hhead, hsteps]

theorem isAbsolute_append {x : String} (hx : x ≠ "") (y : String) :
    isAbsolute ⟨x ++ y⟩ = isAbsolute ⟨x⟩ := by
  obtain ⟨c, cs, hcs⟩ := List.exists_cons_of_ne_nil (mt String.toList_eq_nil_iff.1 hx)
  simp [isAbsolute, Text.startsWith, hcs, List.isPrefixOf]

theorem components_append_slash {x : String} (hx : x ≠ "") (y : String) :
    components ⟨x ++ "/" ++ y⟩ =
      components ⟨x⟩ ++ (segments ⟨y⟩).filterMap Component.ofSegment? := by
  have hhead : (segments ⟨x⟩ ++ segments ⟨y⟩).head? = (segments ⟨x⟩).head? :=
    List.head?_append_of_ne_nil _ (segments_ne_nil _)
  simp only [components, segments_append_slash, hhead, List.filterMap_append, ← List.append_assoc]
  rw [String.append_assoc, isAbsolute_append hx]

/-- A slash at the end does not count. -/
theorem components_concat_slash {x : String} (hx : x ≠ "") :
    components ⟨x ++ "/"⟩ = components ⟨x⟩ := by
  have h := components_append_slash hx ""
  rw [String.append_empty] at h
  exact h.trans (List.append_nil _)

theorem isAbsolute_iff_segments {p : Path} (hp : p.text ≠ "") :
    p.isAbsolute = true ↔ p.segments.head? = some "" := by
  obtain ⟨x⟩ := p
  obtain ⟨c, cs, hcs⟩ := List.exists_cons_of_ne_nil (mt String.toList_eq_nil_iff.1 hp)
  simp only at hcs
  obtain ⟨first, rest, hpieces⟩ := List.exists_cons_of_ne_nil (Text.pieces_ne_nil (· == '/') cs)
  by_cases hc : c = '/'
  · simp [isAbsolute, Text.startsWith, segments, Text.split, hcs, Text.pieces, hc, List.isPrefixOf]
  · simp [isAbsolute, Text.startsWith, segments, Text.split, hcs, Text.pieces, hc, List.isPrefixOf,
      hpieces, Ne.symm hc]

/-- A text that is one step of a path: the name of a file or a directory. -/
def IsName (s : String) : Prop :=
  isVoid s = false ∧ s ≠ ".." ∧ '/' ∉ s.toList

instance (s : String) : Decidable (IsName s) :=
  inferInstanceAs (Decidable (_ ∧ _))

namespace IsName

variable {s : String} (h : IsName s)

include h

theorem isAbsolute_eq : isAbsolute ⟨s⟩ = false := by
  refine Bool.eq_false_iff.2 fun habs => h.2.2 ?_
  exact (Text.startsWith_iff_prefix.1 habs).subset (by simp)

theorem ne_empty : s ≠ "" := by
  rintro rfl
  exact absurd h.1 (by decide)

theorem ofSegment?_eq : Component.ofSegment? s = some (.name s) := by
  have hvoid : (s == "" || s == ".") = false := h.1
  simp [Component.ofSegment?, hvoid, h.2.1]

theorem filterMap_segments :
    (segments ⟨s⟩).filterMap Component.ofSegment? = [.name s] := by
  rw [segments_eq_singleton h.2.2]
  simp [h.ofSegment?_eq]

theorem components_eq : components ⟨s⟩ = [.name s] := by
  have hhere : (segments ⟨s⟩).head? ≠ some "." := by
    rw [segments_eq_singleton h.2.2, List.head?_singleton]
    intro hdot
    rw [Option.some.inj hdot] at h
    exact absurd h.1 (by decide)
  rw [components, h.filterMap_segments, h.isAbsolute_eq]
  simp [hhere]

theorem components_join {p : Path} (hp : p.text ≠ "") :
    (p.join ⟨s⟩).components = p.components ++ [.name s] := by
  rw [Path.components_join hp h.isAbsolute_eq, ← filterMap_ofSegment_steps, h.filterMap_segments]

/-- What a name leads to has the extension of the name, wherever it is. -/
theorem extension?_join {p : Path} (hp : p.text ≠ "") :
    (p.join ⟨s⟩).extension? = extension? ⟨s⟩ := by
  simp only [extension?, fileName?, h.components_join hp, h.components_eq, List.getLast?_concat,
    List.getLast?_singleton]

end IsName

/-- The written form of a component that is a step. -/
def Component.segment : Component → String
  | .up => ".."
  | c => c.text

theorem segment_ofSegment {s : String} {c : Component} (h : Component.ofSegment? s = some c) :
    c.segment = s := by
  simp only [Component.ofSegment?] at h
  split at h
  · cases h
  · split at h
    · rename_i hup
      cases h
      exact (by simpa using hup : s = "..").symm
    · cases h
      rfl

theorem map_segment_filterMap : ∀ segments : List String,
    ((steps segments).filterMap Component.ofSegment?).map Component.segment = steps segments
  | [] => rfl
  | s :: rest => by
    have ih := map_segment_filterMap rest
    by_cases hs : isVoid s = true
    · simpa [steps, hs] using ih
    · have hsteps : steps (s :: rest) = s :: steps rest := by simp [steps, hs]
      obtain ⟨c, hc⟩ : ∃ c, Component.ofSegment? s = some c := by
        simp only [isVoid] at hs
        simp only [Component.ofSegment?, if_neg hs]
        split <;> simp
      rw [hsteps, List.filterMap_cons, hc]
      simp [segment_ofSegment hc, ih]

/-- A component that says where to go next, not where the path starts. -/
def Component.isStep (c : Component) : Bool :=
  decide (2 ≤ c.rank)

theorem isStep_of_mem {segments : List String} {c : Component}
    (h : c ∈ segments.filterMap Component.ofSegment?) : c.isStep = true := by
  obtain ⟨s, -, hs⟩ := List.mem_filterMap.1 h
  simp only [Component.ofSegment?] at hs
  split at hs
  · cases hs
  · split at hs <;> cases hs <;> rfl

/-- The steps of a path can be read off its components. -/
theorem steps_segments (p : Path) :
    steps p.segments = (p.components.filter Component.isStep).map Component.segment := by
  have hlead : ((if p.isAbsolute then [.root] else
      if p.segments.head? == some "." then [.here] else []) : List Component).filter
        Component.isStep = [] := by
    split
    · rfl
    · split <;> rfl
  have hrest : ((steps p.segments).filterMap Component.ofSegment?).filter Component.isStep =
      (steps p.segments).filterMap Component.ofSegment? :=
    List.filter_eq_self.2 fun c hc => isStep_of_mem hc
  rw [components_eq, List.filter_append, hlead, hrest, List.nil_append, map_segment_filterMap]

theorem root_mem_components (p : Path) : .root ∈ p.components ↔ p.isAbsolute = true := by
  rw [components_eq, List.mem_append]
  constructor
  · rintro (h | h)
    · split at h
      · assumption
      · split at h <;> simp at h
    · exact absurd (isStep_of_mem h) (by decide)
  · intro h
    simp [h]

theorem isAbsolute_congr {p q : Path} (h : p.components = q.components) :
    p.isAbsolute = q.isAbsolute := by
  have hiff := (root_mem_components p).symm.trans (h ▸ root_mem_components q)
  exact Bool.eq_iff_iff.2 hiff

theorem steps_congr {p q : Path} (h : p.components = q.components) :
    steps p.segments = steps q.segments := by
  rw [steps_segments, steps_segments, h]

/-- Only the empty path has no components. -/
theorem components_eq_nil_iff (p : Path) : p.components = [] ↔ p.text = "" := by
  obtain ⟨s⟩ := p
  constructor
  · intro h
    refine Classical.byContradiction fun hs => ?_
    obtain ⟨c, cs, hcs⟩ := List.exists_cons_of_ne_nil (mt String.toList_eq_nil_iff.1 hs)
    -- a relative path starts with a segment of its own, which is a step or the mark of the start
    have hslash : c ≠ '/' := by
      rintro rfl
      have habs : isAbsolute ⟨s⟩ = true := by
        simp [isAbsolute, Text.startsWith, hcs, List.isPrefixOf]
      have hroot := (root_mem_components ⟨s⟩).2 habs
      rw [h] at hroot
      cases hroot
    obtain ⟨first, rest, hfirst⟩ := List.exists_cons_of_ne_nil (Text.pieces_ne_nil (· == '/') cs)
    have hsegments : segments ⟨s⟩ = String.ofList (c :: first) :: rest.map String.ofList := by
      simp [segments, Text.split, hcs, Text.pieces, hslash, hfirst]
    have hne : String.ofList (c :: first) ≠ "" := by simp
    rw [components, hsegments] at h
    simp only [List.append_eq_nil_iff, List.head?_cons, List.filterMap_cons] at h
    obtain ⟨hlead, hsteps⟩ := h
    have hdot : String.ofList (c :: first) ≠ "." := by
      intro hdot
      rw [hdot] at hlead
      split at hlead <;> simp at hlead
    have hstep : ∃ d, Component.ofSegment? (String.ofList (c :: first)) = some d := by
      simp only [Component.ofSegment?, beq_eq_false_iff_ne.2 hne, beq_eq_false_iff_ne.2 hdot]
      simp only [Bool.or_self, Bool.false_eq_true, if_false]
      split <;> simp
    obtain ⟨d, hd⟩ := hstep
    rw [hd] at hsteps
    cases hsteps
  · intro h
    have hs : s = "" := h
    subst hs
    rfl

/-! ## Parents -/

/-- Without the void segments at its end. -/
def dropEndVoid (segments : List String) : List String :=
  (segments.reverse.dropWhile isVoid).reverse

theorem exists_eq_dropEndVoid_append (segments : List String) :
    ∃ void, (∀ s ∈ void, isVoid s = true) ∧ segments = dropEndVoid segments ++ void := by
  refine ⟨(segments.reverse.takeWhile isVoid).reverse, fun s hs => ?_, ?_⟩
  · exact List.all_eq_true.1 List.all_takeWhile s (List.mem_reverse.1 hs)
  · rw [dropEndVoid, ← List.reverse_append, List.takeWhile_append_dropWhile, List.reverse_reverse]

theorem steps_dropEndVoid (segments : List String) :
    steps (dropEndVoid segments) = steps segments := by
  obtain ⟨void, hvoid, hsegments⟩ := exists_eq_dropEndVoid_append segments
  have hnone : steps void = [] := by simpa [steps] using hvoid
  conv_rhs => rw [hsegments, steps_append, hnone, List.append_nil]

theorem mem_of_mem_dropEndVoid {segments : List String} {s : String}
    (h : s ∈ dropEndVoid segments) : s ∈ segments := by
  obtain ⟨void, -, hsegments⟩ := exists_eq_dropEndVoid_append segments
  rw [hsegments]
  exact List.mem_append_left _ h

theorem head?_dropEndVoid {segments : List String} (h : dropEndVoid segments ≠ []) :
    (dropEndVoid segments).head? = segments.head? := by
  obtain ⟨void, -, hsegments⟩ := exists_eq_dropEndVoid_append segments
  conv_rhs => rw [hsegments, List.head?_append_of_ne_nil _ h]

theorem dropEndVoid_ne_singleton_empty (segments : List String) : dropEndVoid segments ≠ [""] := by
  intro h
  have hhead := List.head?_dropWhile_not isVoid segments.reverse
  have hlast : segments.reverse.dropWhile isVoid = [""] := by
    rw [← List.reverse_reverse (segments.reverse.dropWhile isVoid), ← dropEndVoid, h]
    rfl
  rw [hlast] at hhead
  simp [isVoid] at hhead

/-- **The parent of what a name leads to below a place is that place.** -/
theorem exists_parent? {x name : String} (hx : x ≠ "") (hname : isVoid name = false)
    (hslash : '/' ∉ name.toList) :
    ∃ parent, parent? ⟨x ++ "/" ++ name⟩ = some parent ∧ parent.components = components ⟨x⟩ := by
  have hsegments : segments ⟨x ++ "/" ++ name⟩ = segments ⟨x⟩ ++ [name] := by
    rw [segments_append_slash, segments_eq_singleton hslash]
  have habs : isAbsolute ⟨x ++ "/" ++ name⟩ = isAbsolute ⟨x⟩ := by
    rw [String.append_assoc, isAbsolute_append hx]
  have hdrop : ∀ outer : List String, (outer ++ [name]).reverse.dropWhile isVoid =
      name :: outer.reverse := by
    intro outer
    rw [List.reverse_append, List.reverse_singleton, List.singleton_append, List.dropWhile_cons,
      if_neg (by simp [hname])]
  -- a place that keeps the first segment and the steps is the same place
  have hplace : ∀ kept : List String, kept ≠ [] → (∀ s ∈ kept, s ∈ segments ⟨x⟩) →
      kept ≠ [""] → kept.head? = (segments ⟨x⟩).head? → steps kept = steps (segments ⟨x⟩) →
      components ⟨"/".intercalate kept⟩ = components ⟨x⟩ := by
    intro kept hne hmem hnot hhead hsteps
    have hkept : segments ⟨"/".intercalate kept⟩ = kept :=
      segments_intercalate hne fun s hs => slash_not_mem_segments s (hmem s hs)
    have htext : (⟨"/".intercalate kept⟩ : Path).text ≠ "" := by
      intro hempty
      rw [show "/".intercalate kept = "" from hempty] at hkept
      exact hnot (hkept.symm.trans rfl)
    refine components_congr ?_ (by rw [hkept, hhead]) (by rw [hkept, hsteps])
    rw [Bool.eq_iff_iff, isAbsolute_iff_segments htext, isAbsolute_iff_segments hx, hkept, hhead]
  by_cases habsolute : isAbsolute ⟨x⟩ = true
  · by_cases hkept : dropEndVoid (segments ⟨x⟩) = []
    · refine ⟨⟨"/"⟩, ?_, components_congr ?_ ?_ ?_⟩
      · rw [parent?, habs, if_pos habsolute, hsegments, hdrop]
        rw [dropEndVoid] at hkept
        simp only [hkept]
      · rw [habsolute]
        rfl
      · rw [(isAbsolute_iff_segments hx).1 habsolute]
        rfl
      · rw [← steps_dropEndVoid (segments ⟨x⟩), hkept]
        rfl
    · refine ⟨⟨"/".intercalate (dropEndVoid (segments ⟨x⟩))⟩, ?_, ?_⟩
      · obtain ⟨s, rest, hcons⟩ := List.exists_cons_of_ne_nil hkept
        rw [hcons, parent?, habs, if_pos habsolute, hsegments, hdrop]
        rw [dropEndVoid] at hcons
        simp only [hcons]
      · exact hplace _ hkept (fun s => mem_of_mem_dropEndVoid) (dropEndVoid_ne_singleton_empty _)
          (head?_dropEndVoid hkept) (steps_dropEndVoid _)
  · obtain ⟨first, inner, hfirst⟩ := List.exists_cons_of_ne_nil (segments_ne_nil ⟨x⟩)
    have hne : first ≠ "" := by
      rintro rfl
      exact habsolute ((isAbsolute_iff_segments hx).2 (by rw [hfirst]; rfl))
    refine ⟨⟨"/".intercalate (first :: dropEndVoid inner)⟩, ?_, ?_⟩
    · rw [parent?, habs, if_neg habsolute, hsegments, hfirst, List.cons_append]
      simp only [hdrop]
      rfl
    · refine hplace _ (List.cons_ne_nil _ _) ?_ ?_ (by rw [hfirst]; rfl) ?_
      · intro s hs
        rw [hfirst]
        rcases List.mem_cons.1 hs with rfl | hs
        · exact List.mem_cons_self
        · exact List.mem_cons_of_mem _ (mem_of_mem_dropEndVoid hs)
      · simp [hne]
      · have hsteps := steps_dropEndVoid inner
        have hcons : ∀ rest, steps (first :: rest) = steps [first] ++ steps rest := fun rest =>
          steps_append [first] rest
        rw [hfirst, hcons, hcons inner, hsteps]

end Path

/-! ## Entries below a path -/

theorem Entry.follow_directory_cons (outer : List Entry) (entries : List (String × Entry))
    (s : String) (rest : List String) :
    follow outer (.directory entries) (s :: rest) =
      if Path.isVoid s then follow outer (.directory entries) rest
      else if s == ".." then
        match outer with
        | [] => follow [] (.directory entries) rest
        | parent :: further => follow further parent rest
      else
        match entries.lookup s with
        | none => .error .notFound
        | some entry => follow (.directory entries :: outer) entry rest := by
  cases outer <;> rfl

/-- Void segments do not count on the way to something further down. -/
theorem Entry.follow_append_eq {rest : List String} (hrest : rest ≠ []) :
    ∀ (lead : List String) (outer : List Entry) (entry : Entry),
      follow outer entry (lead ++ rest) = follow outer entry (Path.steps lead ++ rest)
  | [], _, _ => rfl
  | s :: lead, outer, .file content => by
    obtain ⟨t, rest, rfl⟩ := List.exists_cons_of_ne_nil hrest
    cases h : Path.steps (s :: lead) <;> simp [follow]
  | s :: lead, outer, .directory entries => by
    by_cases hs : Path.isVoid s = true
    · have hsteps : Path.steps (s :: lead) = Path.steps lead := by simp [Path.steps, hs]
      rw [hsteps, ← follow_append_eq hrest lead outer (.directory entries), List.cons_append,
        follow_directory_cons, if_pos hs]
    · have hsteps : Path.steps (s :: lead) = s :: Path.steps lead := by simp [Path.steps, hs]
      rw [hsteps, List.cons_append, List.cons_append, follow_directory_cons, follow_directory_cons,
        if_neg hs, if_neg hs]
      split
      · cases outer with
        | nil => exact follow_append_eq hrest lead [] _
        | cons parent further => exact follow_append_eq hrest lead further parent
      · cases entries.lookup s with
        | none => rfl
        | some entry => exact follow_append_eq hrest lead _ entry

/-- Where a path leads to a directory, void segments do not count at all. -/
theorem Entry.follow_eq_directory_iff (found : List (String × Entry)) :
    ∀ (segments : List String) (outer : List Entry) (entry : Entry),
      follow outer entry segments = .ok (.directory found) ↔
        follow outer entry (Path.steps segments) = .ok (.directory found)
  | [], _, _ => Iff.rfl
  | s :: rest, outer, .file content => by
    have hfile : ∀ segments, follow outer (.file content) segments ≠ .ok (.directory found) := by
      intro segments h
      cases segments <;> simp [follow] at h
    exact ⟨fun h => absurd h (hfile _), fun h => absurd h (hfile _)⟩
  | s :: rest, outer, .directory entries => by
    by_cases hs : Path.isVoid s = true
    · have hsteps : Path.steps (s :: rest) = Path.steps rest := by simp [Path.steps, hs]
      rw [hsteps, ← follow_eq_directory_iff found rest outer (.directory entries),
        follow_directory_cons, if_pos hs]
    · have hsteps : Path.steps (s :: rest) = s :: Path.steps rest := by simp [Path.steps, hs]
      rw [hsteps, follow_directory_cons, follow_directory_cons, if_neg hs, if_neg hs]
      split
      · cases outer with
        | nil => exact follow_eq_directory_iff found rest [] _
        | cons parent further => exact follow_eq_directory_iff found rest further parent
      · cases entries.lookup s with
        | none => exact Iff.rfl
        | some entry => exact follow_eq_directory_iff found rest _ entry

/-- A name after the way to a directory leads to the entry of that name, and after the way to
    anything else it leads nowhere. -/
theorem Entry.follow_concat_name_iff {name : String} (hname : Path.IsName name) {target : Entry}
    (segments : List String) (outer : List Entry) (entry : Entry) :
    follow outer entry (segments ++ [name]) = .ok target ↔
      ∃ found, follow outer entry segments = .ok (.directory found) ∧
        found.lookup name = some target := by
  induction segments generalizing outer entry with
  | nil =>
    cases entry with
    | file content => simp [follow]
    | directory entries =>
      rw [List.nil_append, follow_directory_cons, if_neg (by simp [hname.1]),
        if_neg (by simpa using hname.2.1)]
      cases hentry : entries.lookup name <;> simp [follow, hentry]
  | cons s rest ih =>
    cases entry with
    | file content => simp [follow]
    | directory entries =>
      rw [List.cons_append, follow_directory_cons, follow_directory_cons]
      by_cases hvoid : Path.isVoid s = true
      · rw [if_pos hvoid, if_pos hvoid]
        exact ih outer _
      · rw [if_neg hvoid, if_neg hvoid]
        by_cases hup : (s == "..") = true
        · rw [if_pos hup, if_pos hup]
          cases outer with
          | nil => exact ih [] _
          | cons parent further => exact ih further parent
        · rw [if_neg hup, if_neg hup]
          cases entries.lookup s with
          | none => simp
          | some entry => exact ih _ entry

theorem Entry.mem_of_lookup {entries : List (String × Entry)} {name : String} {entry : Entry}
    (h : entries.lookup name = some entry) : (name, entry) ∈ entries := by
  obtain ⟨before, after, rfl, -⟩ := List.lookup_eq_some_iff.1 h
  simp

/-- The entries of a directory: each has a name, and no two have the same one. -/
structure Entry.IsListing (entries : List (String × Entry)) : Prop where
  named : ∀ e ∈ entries, Path.IsName e.1
  distinct : (entries.map Prod.fst).Nodup

namespace Entry.IsListing

variable {entries : List (String × Entry)}

instance : Decidable (Entry.IsListing entries) :=
  decidable_of_iff ((∀ e ∈ entries, Path.IsName e.1) ∧ (entries.map Prod.fst).Nodup)
    ⟨fun h => ⟨h.1, h.2⟩, fun h => ⟨h.named, h.distinct⟩⟩

theorem perm {entries' : List (String × Entry)} (h : Entry.IsListing entries)
    (hperm : entries'.Perm entries) : Entry.IsListing entries' where
  named e he := h.named e (hperm.subset he)
  distinct := ((hperm.map Prod.fst).nodup_iff).2 h.distinct

/-- Looking up a name gives what is listed under it. -/
theorem lookup_eq_some_iff (h : Entry.IsListing entries) {name : String} {entry : Entry} :
    entries.lookup name = some entry ↔ (name, entry) ∈ entries := by
  refine ⟨Entry.mem_of_lookup, fun hmem => ?_⟩
  obtain ⟨before, after, hcut⟩ := List.append_of_mem hmem
  have hdistinct := h.distinct
  rw [hcut, List.map_append, List.map_cons, List.nodup_append] at hdistinct
  refine List.lookup_eq_some_iff.2 ⟨before, after, hcut, fun other hother => ?_⟩
  have hne := hdistinct.2.2 other.1 (List.mem_map_of_mem hother) name List.mem_cons_self
  simpa using fun heq => hne heq.symm

end Entry.IsListing

namespace FileSystem

theorem find_of_text_ne {fs : FileSystem} {p : Path} (h : p.text ≠ "") :
    fs.find p = fs.root.follow [] (fs.segments p) := by
  simp [find, h]

theorem text_ne_of_find {fs : FileSystem} {p : Path} {entry : Entry} (h : fs.find p = .ok entry) :
    p.text ≠ "" := by
  intro hempty
  simp [find, hempty] at h

theorem isFile_iff {fs : FileSystem} {p : Path} :
    fs.isFile p = true ↔ ∃ content, fs.find p = .ok (.file content) := by
  rw [isFile]
  split <;> simp_all

theorem isDirectory_iff {fs : FileSystem} {p : Path} :
    fs.isDirectory p = true ↔ ∃ entries, fs.find p = .ok (.directory entries) := by
  rw [isDirectory]
  split <;> simp_all

/-- The steps that lead from the root to where a path points. -/
theorem steps_segments_congr (fs : FileSystem) {p q : Path} (h : p.components = q.components) :
    Path.steps (fs.segments p) = Path.steps (fs.segments q) := by
  simp only [segments, Path.isAbsolute_congr h]
  split
  · exact Path.steps_congr h
  · rw [Path.steps_append, Path.steps_append, Path.steps_congr h]

/-- **As directories, two paths with equal components list the same entries.** -/
theorem list_congr (fs : FileSystem) {p q : Path} (h : p.components = q.components) :
    fs.list p = fs.list q := by
  have hempty : p.text = "" ↔ q.text = "" := by
    rw [← Path.components_eq_nil_iff, ← Path.components_eq_nil_iff, h]
  have hfind : ∀ found, fs.find p = .ok (.directory found) ↔ fs.find q = .ok (.directory found) := by
    intro found
    by_cases hp : p.text = ""
    · simp [find, hp, hempty.1 hp]
    · rw [find_of_text_ne hp, find_of_text_ne (mt hempty.2 hp), Entry.follow_eq_directory_iff,
        steps_segments_congr fs h, ← Entry.follow_eq_directory_iff]
  simp only [list]
  split
  · rename_i found hp
    rw [(hfind found).1 hp]
  · rename_i hp
    split
    · rename_i found hq
      exact absurd ((hfind found).2 hq) (hp found)
    · rfl

/-- **Below two paths with equal components the same entries are found.** -/
theorem find_join_congr (fs : FileSystem) {p q : Path} (h : p.components = q.components)
    (hp : p.text ≠ "") (name : Path) : fs.find (p.join name) = fs.find (q.join name) := by
  by_cases habs : name.isAbsolute = true
  · rw [Path.join_of_isAbsolute p habs, Path.join_of_isAbsolute q habs]
  · have hname : name.isAbsolute = false := by simpa using habs
    have hq : q.text ≠ "" := by
      rw [Ne, ← Path.components_eq_nil_iff, ← h, Path.components_eq_nil_iff]
      exact hp
    obtain ⟨leadP, hsegP, -, hstepsP⟩ := Path.segments_join hp hname
    obtain ⟨leadQ, hsegQ, -, hstepsQ⟩ := Path.segments_join hq hname
    have hsteps : Path.steps leadP = Path.steps leadQ := by
      rw [hstepsP, hstepsQ, Path.steps_congr h]
    have hrest := Path.segments_ne_nil name
    rw [find_of_text_ne (Path.text_join_ne_empty hp hname),
      find_of_text_ne (Path.text_join_ne_empty hq hname)]
    simp only [segments, Path.isAbsolute_join hp hname, Path.isAbsolute_join hq hname,
      Path.isAbsolute_congr h, hsegP, hsegQ]
    split
    · rw [Entry.follow_append_eq hrest, hsteps, ← Entry.follow_append_eq hrest]
    · rw [← List.append_assoc, ← List.append_assoc, Entry.follow_append_eq hrest,
        Path.steps_append, hsteps, ← Path.steps_append, ← Entry.follow_append_eq hrest]

theorem find_eq_of_list_ne {fs : FileSystem} {dir : Path} (h : fs.list dir ≠ []) :
    fs.find dir = .ok (.directory (fs.list dir)) := by
  unfold list at h ⊢
  split
  · assumption
  · rename_i hother
    split at h
    · rename_i entries hfind
      exact absurd hfind (hother entries)
    · exact absurd rfl h

theorem text_ne_of_list_ne {fs : FileSystem} {dir : Path} (h : fs.list dir ≠ []) : dir.text ≠ "" :=
  text_ne_of_find (find_eq_of_list_ne h)

/-- **Below a path the entries of the directory at the path are found**, and nothing below a path
    where there is no directory. -/
theorem find_join_eq_ok_iff (fs : FileSystem) {p : Path} (hp : p.text ≠ "") {name : String}
    (hname : Path.IsName name) {entry : Entry} :
    fs.find (p.join ⟨name⟩) = .ok entry ↔
      ∃ found, fs.find p = .ok (.directory found) ∧ found.lookup name = some entry := by
  obtain ⟨lead, hsegments, -, hsteps⟩ := Path.segments_join hp hname.isAbsolute_eq
  -- up to void segments, what stands before the name is the way to the directory
  have hway : ∃ way, fs.segments (p.join ⟨name⟩) = way ++ [name] ∧
      Path.steps way = Path.steps (fs.segments p) := by
    simp only [segments, Path.isAbsolute_join hp hname.isAbsolute_eq, hsegments,
      Path.segments_eq_singleton hname.2.2]
    split
    · exact ⟨lead, rfl, hsteps⟩
    · exact ⟨_, (List.append_assoc _ _ _).symm, by rw [Path.steps_append, Path.steps_append, hsteps]⟩
  obtain ⟨way, hway, hsame⟩ := hway
  rw [find_of_text_ne (Path.text_join_ne_empty hp hname.isAbsolute_eq), hway,
    Entry.follow_concat_name_iff hname, find_of_text_ne hp]
  refine exists_congr fun found => and_congr_left fun _ => ?_
  rw [Entry.follow_eq_directory_iff, hsame, ← Entry.follow_eq_directory_iff]

/-- **What a directory lists is found in it.** -/
theorem find_join_of_mem {fs : FileSystem} {dir : Path} (hlisting : Entry.IsListing (fs.list dir))
    {e : String × Entry} (he : e ∈ fs.list dir) : fs.find (dir.join ⟨e.1⟩) = .ok e.2 := by
  have hne : fs.list dir ≠ [] := List.ne_nil_of_mem he
  rw [fs.find_join_eq_ok_iff (text_ne_of_list_ne hne) (hlisting.named e he)]
  exact ⟨_, find_eq_of_list_ne hne, hlisting.lookup_eq_some_iff.2 he⟩

end FileSystem

theorem Path.components_join_congr {p q : Path} (h : p.components = q.components)
    (hp : p.text ≠ "") (name : Path) : (p.join name).components = (q.join name).components := by
  by_cases habs : name.isAbsolute = true
  · rw [Path.join_of_isAbsolute p habs, Path.join_of_isAbsolute q habs]
  · have hname : name.isAbsolute = false := by simpa using habs
    have hq : q.text ≠ "" := by
      rw [Ne, ← Path.components_eq_nil_iff, ← h, Path.components_eq_nil_iff]
      exact hp
    rw [Path.components_join hp hname, Path.components_join hq hname, h]

/-! ## Order -/

namespace Path

theorem Component.compare_eq :
    Component.compare = compareLex (compareOn Component.rank) (compareOn Component.text) := rfl

instance : Std.TransCmp Component.compare := by
  rw [Component.compare_eq]
  infer_instance

theorem compareComponents_eq :
    ∀ as bs : List Component, compareComponents as bs = List.compareLex Component.compare as bs
  | [], [] => rfl
  | [], _ :: _ => rfl
  | _ :: _, [] => rfl
  | a :: as, b :: bs => by
    rw [compareComponents, List.compareLex_cons_cons, compareComponents_eq as bs]

theorem compare_swap (p q : Path) : q.compare p = (p.compare q).swap := by
  simp only [compare, compareComponents_eq]
  exact Std.OrientedCmp.eq_swap

theorem le_total (p q : Path) : (p.le q || q.le p) = true := by
  simp only [le, compare_swap p q]
  cases p.compare q <;> rfl

theorem le_trans {p q r : Path} (hpq : p.le q = true) (hqr : q.le r = true) : p.le r = true := by
  simp only [le, compare, compareComponents_eq, bne_iff_ne, ne_eq, ← Ordering.isLE_iff_ne_gt] at *
  exact Std.TransCmp.isLE_trans hpq hqr

instance : Std.LawfulEqCmp Component.compare where
  eq_of_compare {a b} h := by
    obtain ⟨hrank, htext⟩ := Ordering.then_eq_eq.1 h
    have hrank : a.rank = b.rank := Std.LawfulEqCmp.eq_of_compare hrank
    have htext : a.text = b.text := Std.LawfulEqCmp.eq_of_compare htext
    cases a <;> cases b <;> simp_all [Component.rank, Component.text]

/-- Two paths of which neither comes before the other stand for the same place, so different places
    can be sorted in one way only. -/
theorem components_eq_of_le {p q : Path} (hpq : p.le q = true) (hqp : q.le p = true) :
    p.components = q.components := by
  simp only [le, compare, compareComponents_eq, bne_iff_ne, ne_eq,
    ← Ordering.isLE_iff_ne_gt] at hpq hqp
  exact Std.LawfulEqCmp.eq_of_compare (Std.OrientedCmp.isLE_antisymm hpq hqp)

theorem compare_eq_lt {p q : Path} (hle : p.le q = true) (hne : p.components ≠ q.components) :
    p.compare q = .lt := by
  cases hcompare : p.compare q with
  | lt => rfl
  | eq =>
    refine absurd (components_eq_of_le hle ?_) hne
    rw [le, compare_swap, hcompare]
    rfl
  | gt =>
    rw [le, hcompare] at hle
    cases hle

end Path

end LayerLint
