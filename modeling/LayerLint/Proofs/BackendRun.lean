import LayerLint.Proofs.HooksDirectory
import Mathlib.Order.Bounds.Basic

/-!
# The backend root as a run of segments

The backend root is looked for among the characters of a path: at the very start, and then as the
first occurrence of the root between two slashes.  What this finds is a matter of whole segments.

* `runsAt_zero_iff`, `runsAt_succ_iff` — the segments of a path run through those of a root just if
  the path is put together around the root and the slashes beside it;
* `splitBackend?_eq_some_iff` — the path is cut at the first run that something follows;
* `Layer.ofRest_eq_iff` — a layer is the first segment after the run, if that is not the last one;
* `backend_root_is_first_run` — both, for all paths and roots.  So neither the root nor the
  directory of a layer is ever found inside of a longer segment.
-/

set_option autoImplicit false

namespace LayerLint

/-! ## Runs -/

/-- From a position on, the segments of a path are those of a root, and at least one follows. -/
structure RunsAt (path root : List String) (i : Nat) : Prop where
  run : (path.drop i).take root.length = root
  followed : i + root.length < path.length

variable {path root : String} {s t : List String} {i : Nat}

theorem runsAt_iff :
    RunsAt s t i ↔
      ∃ before after, before.length = i ∧ after ≠ [] ∧ s = before ++ t ++ after := by
  constructor
  · intro h
    have hfollowed := h.followed
    refine ⟨s.take i, s.drop (i + t.length), ?_, ?_, ?_⟩
    · rw [List.length_take]
      omega
    · rw [Ne, List.drop_eq_nil_iff]
      omega
    · have hrest := List.take_append_drop t.length (s.drop i)
      rw [h.run, List.drop_drop] at hrest
      rw [List.append_assoc, hrest, List.take_append_drop]
  · rintro ⟨before, after, rfl, hafter, rfl⟩
    have hpos := List.length_pos_iff.2 hafter
    refine ⟨by simp, ?_⟩
    simp only [List.length_append]
    omega

/-- A run at the very start. -/
theorem runsAt_zero_iff :
    RunsAt (Path.segments ⟨path⟩) (Path.segments ⟨root⟩) 0 ↔
      ∃ rest, path = root ++ "/" ++ rest := by
  rw [runsAt_iff]
  constructor
  · rintro ⟨before, after, hzero, hafter, hsegments⟩
    rw [List.length_eq_zero_iff.1 hzero, List.nil_append] at hsegments
    refine ⟨"/".intercalate after, ?_⟩
    have hpath := Path.intercalate_segments ⟨path⟩
    rw [hsegments, String.intercalate_append_of_ne_nil (Path.segments_ne_nil _) hafter,
      Path.intercalate_segments] at hpath
    exact hpath.symm
  · rintro ⟨rest, rfl⟩
    exact ⟨[], Path.segments ⟨rest⟩, rfl, Path.segments_ne_nil _, Path.segments_append_slash _ _⟩

/-- A run further on: something, possibly empty, stands before the slash at which it begins. -/
theorem runsAt_succ_iff :
    RunsAt (Path.segments ⟨path⟩) (Path.segments ⟨root⟩) (i + 1) ↔
      ∃ before rest, path = before ++ "/" ++ root ++ "/" ++ rest ∧
        (Path.segments ⟨before⟩).length = i + 1 := by
  rw [runsAt_iff]
  constructor
  · rintro ⟨before, after, hlength, hafter, hsegments⟩
    have hbefore : before ≠ [] := List.ne_nil_of_length_eq_add_one hlength
    have hslashes : ∀ name ∈ before, '/' ∉ name.toList := fun name hname =>
      Path.slash_not_mem_segments (p := ⟨path⟩) name (by simp [hsegments, hname])
    have hpath := Path.intercalate_segments ⟨path⟩
    refine ⟨"/".intercalate before, "/".intercalate after, ?_, ?_⟩
    · rw [hsegments, String.intercalate_append_of_ne_nil (by simp [hbefore]) hafter,
        String.intercalate_append_of_ne_nil hbefore (Path.segments_ne_nil _),
        Path.intercalate_segments] at hpath
      exact hpath.symm
    · rw [Path.segments_intercalate hbefore hslashes, hlength]
  · rintro ⟨before, rest, rfl, hlength⟩
    refine ⟨_, Path.segments ⟨rest⟩, hlength, Path.segments_ne_nil _, ?_⟩
    rw [Path.segments_append_slash, Path.segments_append_slash]

theorem not_runsAt_zero (hlead : Text.dropLead? (root ++ "/") path = none) :
    ¬ RunsAt (Path.segments ⟨path⟩) (Path.segments ⟨root⟩) 0 := by
  intro hrun
  obtain ⟨rest, hrest⟩ := runsAt_zero_iff.1 hrun
  rw [Text.dropLead?_eq_some_iff.2 hrest] at hlead
  cases hlead

/-! ## The cut -/

theorem exists_isLeast_of_splitBackend? {cut : BackendSplit}
    (hcut : splitBackend? path root = some cut) :
    ∃ i, IsLeast {i | RunsAt (Path.segments ⟨path⟩) (Path.segments ⟨trimRoot root⟩) i} i ∧
      cut = ⟨"/".intercalate ((Path.segments ⟨path⟩).take i), "/".intercalate
        ((Path.segments ⟨path⟩).drop (i + (Path.segments ⟨trimRoot root⟩).length))⟩ := by
  unfold splitBackend? at hcut
  split at hcut
  · rename_i rest hlead
    cases hcut
    have hpath := Text.dropLead?_eq_some_iff.1 hlead
    refine ⟨0, ⟨runsAt_zero_iff.2 ⟨rest, hpath⟩, fun i _ => Nat.zero_le i⟩, ?_⟩
    rw [hpath, Path.segments_append_slash, Nat.zero_add, List.drop_left, Path.intercalate_segments]
    simp
  · rename_i hlead
    obtain ⟨texts, htexts, rfl⟩ := Option.map_eq_some_iff.1 hcut
    obtain ⟨⟨before, after⟩, hchars, rfl⟩ := Option.map_eq_some_iff.1 htexts
    have hpath : path = String.ofList before ++ "/" ++ trimRoot root ++ "/" ++ String.ofList after := by
      rw [← String.toList_inj, Text.append_of_cutAtFirst? hchars]
      simp
    have hsegments : Path.segments ⟨path⟩ = Path.segments ⟨String.ofList before⟩ ++
        Path.segments ⟨trimRoot root⟩ ++ Path.segments ⟨String.ofList after⟩ := by
      rw [hpath, Path.segments_append_slash, Path.segments_append_slash]
    refine ⟨(Path.segments ⟨String.ofList before⟩).length, ⟨?_, fun i hi => ?_⟩, ?_⟩
    · exact runsAt_iff.2 ⟨_, _, rfl, Path.segments_ne_nil _, hsegments⟩
    · cases i with
      | zero => exact absurd hi (not_runsAt_zero hlead)
      | succ i =>
        obtain ⟨before', rest, hpath', hlength⟩ := runsAt_succ_iff.1 hi
        have hoccurs : path.toList =
            before'.toList ++ ("/" ++ trimRoot root ++ "/").toList ++ rest.toList := by
          simp [hpath']
        have hshorter := Text.length_le_of_cutAtFirst? hchars hoccurs
        -- both parts begin the path, so the shorter one has no more slashes than the other
        have hbegins : before <+: path.toList := by
          rw [Text.append_of_cutAtFirst? hchars, List.append_assoc]
          exact List.prefix_append _ _
        have hbegins' : before'.toList <+: path.toList := by
          rw [hoccurs, List.append_assoc]
          exact List.prefix_append _ _
        have hprefix := List.prefix_of_prefix_length_le hbegins hbegins' hshorter
        rw [← hlength, Path.length_segments, Path.length_segments, String.toList_ofList]
        exact Nat.succ_le_succ hprefix.sublist.countP_le
    · rw [hsegments, ← List.length_append, List.drop_left, List.append_assoc, List.take_left,
        Path.intercalate_segments, Path.intercalate_segments]

theorem splitBackend?_eq_none_iff :
    splitBackend? path root = none ↔
      ∀ i, ¬ RunsAt (Path.segments ⟨path⟩) (Path.segments ⟨trimRoot root⟩) i := by
  constructor
  · intro hnone i hi
    unfold splitBackend? at hnone
    split at hnone
    · cases hnone
    · rename_i hlead
      rw [Option.map_eq_none_iff, Text.cutFirst?, Option.map_eq_none_iff] at hnone
      cases i with
      | zero => exact not_runsAt_zero hlead hi
      | succ i =>
        obtain ⟨before, rest, hpath, -⟩ := runsAt_succ_iff.1 hi
        have hfound := (Text.isSome_cutAtFirst?_iff ("/" ++ trimRoot root ++ "/").toList
          path.toList).2 ⟨before.toList, rest.toList, by simp [hpath]⟩
        rw [hnone] at hfound
        cases hfound
  · intro hruns
    refine Option.eq_none_iff_forall_ne_some.2 fun cut hcut => ?_
    obtain ⟨i, hi, -⟩ := exists_isLeast_of_splitBackend? hcut
    exact hruns i hi.1

/-- **The path is cut at the first run.** -/
theorem splitBackend?_eq_some_iff {cut : BackendSplit} :
    splitBackend? path root = some cut ↔
      ∃ i, IsLeast {i | RunsAt (Path.segments ⟨path⟩) (Path.segments ⟨trimRoot root⟩) i} i ∧
        cut = ⟨"/".intercalate ((Path.segments ⟨path⟩).take i), "/".intercalate
          ((Path.segments ⟨path⟩).drop (i + (Path.segments ⟨trimRoot root⟩).length))⟩ := by
  refine ⟨exists_isLeast_of_splitBackend?, ?_⟩
  rintro ⟨i, hi, rfl⟩
  cases hcut : splitBackend? path root with
  | none => exact absurd hi.1 (splitBackend?_eq_none_iff.1 hcut i)
  | some cut =>
    obtain ⟨j, hj, rfl⟩ := exists_isLeast_of_splitBackend? hcut
    rw [hi.unique hj]

/-! ## Layers -/

namespace Layer

theorem mem_all_iff {layer : Layer} : layer ∈ all ↔ layer ≠ .other := by
  cases layer <;> simp [all]

theorem ofDirectory_eq_iff {layer : Layer} (hlayer : layer ∈ all) {name : String} :
    ofDirectory name = layer ↔ name = layer.directory := by
  constructor
  · rintro rfl
    unfold ofDirectory at hlayer ⊢
    cases hfind : all.find? fun layer => layer.directory == name with
    | none =>
      rw [hfind] at hlayer
      exact absurd rfl (mem_all_iff.1 hlayer)
    | some found =>
      have hfound := List.find?_some hfind
      exact (beq_iff_eq.1 hfound).symm
  · rintro rfl
    revert hlayer
    cases layer <;> decide

/-- What lies below the root is in a layer if it stands in the directory of the layer. -/
theorem ofRest_eq_iff {layer : Layer} (hlayer : layer ∈ all) {rest : String} :
    ofRest rest = layer ↔ ∃ file more, Path.segments ⟨rest⟩ = layer.directory :: file :: more := by
  have hother : layer ≠ .other := mem_all_iff.1 hlayer
  unfold ofRest Path.segments
  split
  · rename_i first file more hsegments
    rw [ofDirectory_eq_iff hlayer, hsegments]
    simp
  · rename_i hshort
    refine iff_of_false hother.symm ?_
    rintro ⟨file, more, hsegments⟩
    exact hshort _ _ _ hsegments

theorem ofRest_eq_other_iff {rest : String} :
    ofRest rest = .other ↔
      ∀ layer ∈ all, ¬ ∃ file more, Path.segments ⟨rest⟩ = layer.directory :: file :: more := by
  constructor
  · intro hother layer hlayer hstands
    rw [(ofRest_eq_iff hlayer).2 hstands] at hother
    exact mem_all_iff.1 hlayer hother
  · intro hnone
    by_contra hother
    have hlayer := mem_all_iff.2 hother
    exact hnone _ hlayer ((ofRest_eq_iff hlayer).1 rfl)

end Layer

/-- The segments of what lies below the root are those that follow the run. -/
theorem segments_rest (hi : RunsAt (Path.segments ⟨path⟩) t i) :
    Path.segments ⟨"/".intercalate ((Path.segments ⟨path⟩).drop (i + t.length))⟩ =
      (Path.segments ⟨path⟩).drop (i + t.length) := by
  refine Path.segments_intercalate ?_ fun name hname => ?_
  · have hfollowed := hi.followed
    rw [Ne, List.drop_eq_nil_iff]
    omega
  · exact Path.slash_not_mem_segments name (List.mem_of_mem_drop hname)

theorem classify?_eq_some_iff {layer : Layer} :
    Layer.classify? path root = some layer ↔
      ∃ i, IsLeast {i | RunsAt (Path.segments ⟨path⟩) (Path.segments ⟨trimRoot root⟩) i} i ∧
        Layer.ofRest ("/".intercalate ((Path.segments ⟨path⟩).drop
          (i + (Path.segments ⟨trimRoot root⟩).length))) = layer := by
  rw [Layer.classify?, Option.map_eq_some_iff]
  simp only [splitBackend?_eq_some_iff]
  constructor
  · rintro ⟨cut, ⟨i, hi, rfl⟩, hlayer⟩
    dsimp only at hlayer
    exact ⟨i, hi, hlayer⟩
  · rintro ⟨i, hi, hlayer⟩
    refine ⟨_, ⟨i, hi, rfl⟩, ?_⟩
    dsimp only
    exact hlayer

/-- **Where a path runs through the backend root, and which layer that gives.**  Take the segments of
    the path and of the root without slashes around it.  The path is cut just if the segments of the
    root are a run of those of the path with something after it: at the first such run, into what
    stands before it and what follows it.  The path is in a layer just if the first segment after
    this run is the directory of the layer and not the last one, in no layer if that fails for all of
    them, and outside of the backend if there is no such run. -/
theorem backend_root_is_first_run (path root : String) :
    let s := Path.segments ⟨path⟩
    let t := Path.segments ⟨trimRoot root⟩
    (∀ m r, splitBackend? path root = some ⟨m, r⟩ ↔
      ∃ i, IsLeast {i | RunsAt s t i} i ∧ m = "/".intercalate (s.take i) ∧
        r = "/".intercalate (s.drop (i + t.length))) ∧
    (∀ layer ∈ Layer.all, Layer.classify? path root = some layer ↔
      ∃ i, IsLeast {i | RunsAt s t i} i ∧
        ∃ file more, s.drop (i + t.length) = layer.directory :: file :: more) ∧
    (Layer.classify? path root = some .other ↔
      ∃ i, IsLeast {i | RunsAt s t i} i ∧ ∀ layer ∈ Layer.all,
        ¬ ∃ file more, s.drop (i + t.length) = layer.directory :: file :: more) ∧
    (splitBackend? path root = none ↔ ∀ i, ¬ RunsAt s t i) ∧
    (Layer.classify? path root = none ↔ ∀ i, ¬ RunsAt s t i) := by
  intro s t
  have hrest : ∀ {i}, IsLeast {i | RunsAt s t i} i →
      Path.segments ⟨"/".intercalate (s.drop (i + t.length))⟩ = s.drop (i + t.length) :=
    fun hi => segments_rest hi.1
  refine ⟨fun m r => ?_, fun layer hmem => ?_, ?_, splitBackend?_eq_none_iff, ?_⟩
  · rw [splitBackend?_eq_some_iff]
    simp only [BackendSplit.mk.injEq, s, t]
  · rw [classify?_eq_some_iff]
    refine exists_congr fun i => and_congr_right fun hi => ?_
    rw [Layer.ofRest_eq_iff hmem, hrest hi]
  · rw [classify?_eq_some_iff]
    refine exists_congr fun i => and_congr_right fun hi => ?_
    rw [Layer.ofRest_eq_other_iff, hrest hi]
  · rw [Layer.classify?, Option.map_eq_none_iff, splitBackend?_eq_none_iff]

/-- The root stands in the path three times, the first time as the end of a longer segment.  The
    second time counts. -/
theorem backend_root_is_first_run_repeated :
    let path := "xsrc/backend/src/backend/Hooks/src/backend/A.php"
    let s := Path.segments ⟨path⟩
    let t := Path.segments ⟨trimRoot "/src/backend/"⟩
    splitBackend? path "/src/backend/" = some ⟨"xsrc/backend", "Hooks/src/backend/A.php"⟩ ∧
      .hooks ∈ Layer.all ∧ Layer.classify? path "/src/backend/" = some .hooks ∧
      ∃ i, IsLeast {i | RunsAt s t i} i ∧ "xsrc/backend" = "/".intercalate (s.take i) ∧
        ∃ file more, s.drop (i + t.length) = "Hooks" :: file :: more := by
  intro path s t
  obtain ⟨hcut, hlayer, -⟩ := backend_root_is_first_run path "/src/backend/"
  have hfacts : splitBackend? path "/src/backend/" =
      some ⟨"xsrc/backend", "Hooks/src/backend/A.php"⟩ ∧
      Layer.classify? path "/src/backend/" = some .hooks := by
    decide +kernel
  obtain ⟨i, hi, hmodule, -⟩ := (hcut _ _).1 hfacts.1
  obtain ⟨j, hj, hdirectory⟩ := (hlayer .hooks (by decide)).1 hfacts.2
  rw [hj.unique hi] at hdirectory
  exact ⟨hfacts.1, by decide, hfacts.2, i, hi, hmodule, hdirectory⟩

end LayerLint
