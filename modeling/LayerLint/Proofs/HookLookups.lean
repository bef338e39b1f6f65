import LayerLint.Proofs.HookMemo
import Mathlib.Data.List.Induction
import Mathlib.Logic.Function.Basic

/-!
# Lookups of hook reads while files change

Several workers look up what the hooks of directories read, all in one memory, and the file system
changes under them.  A lookup takes two steps, between which anything may happen: the worker obtains
the cell of the directory, and then settles it, which fills the cell if it is still empty.

* `Lookups.step`, `Lookups.run` — one event, and a finite sequence of events;
* `Consistent` — what ties the cells, the answers and the evaluations together, kept by every event;
* `exists_first` — a filled cell was filled by the first step that settled it;
* `lookups_collect_once` — so all lookups of a directory have one answer, the fields at that moment,
  and these are worked out once.

The evaluations are logged by the computation that a cell is filled with, so the log has exactly
those that take place.
-/

set_option autoImplicit false

namespace LayerLint

/-- Where there is no directory, no hook reads anything. -/
theorem HookReads.collect_of_not_directory {fs : FileSystem} {dir : Path}
    (h : fs.isDirectory dir = false) : HookReads.collect fs dir = [] := by
  have hlist : fs.list dir = [] := by
    unfold FileSystem.isDirectory at h
    unfold FileSystem.list
    split at h
    · cases h
    · rfl
  simp [HookReads.collect, HookReads.hookFiles, hlist]

namespace HookMemo

/-- The second step of a lookup: gives what the cell of a directory holds.  Only if that is nothing
    yet, `collect` is run, and the cell is filled with the fields that it gives. -/
def settle {m : Type → Type} [Monad m] (collect : Path → m (List String)) (dir : Path) :
    StateT HookMemo m (List String) := do
  match (← get).cell? dir with
  | some (some fields) => return fields
  | _ =>
    let fields ← collect dir
    modify fun memo => memo.fill dir fields
    return fields

theorem run_settle {σ : Type} (collect : Path → StateM σ (List String)) (dir : Path)
    (memo : HookMemo) (log : σ) :
    ((settle collect dir).run memo).run log =
      match memo.cell? dir with
      | some (some fields) => ((fields, memo), log)
      | _ =>
        ((((collect dir).run log).1, memo.fill dir ((collect dir).run log).1),
          ((collect dir).run log).2) := by
  have hread : (settle collect dir).run memo =
      StateT.run
        (match memo.cell? dir with
          | some (some fields) => (return fields : StateT HookMemo (StateM σ) (List String))
          | _ => do
            let fields ← collect dir
            modify fun memo => memo.fill dir fields
            return fields)
        memo := rfl
  rw [hread]
  rcases memo.cell? dir with _ | _ | fields <;> rfl

end HookMemo

/-- An event in a session of lookups. -/
inductive LookupEvent where
  | write (path : Path) (entry : Entry)
  | remove (path : Path)
  /-- A worker obtains the cell of a directory, which is made if there is none. -/
  | obtain (worker : Nat) (dir : Path)
  /-- A worker settles the cell that it has obtained. -/
  | settle (worker : Nat)

/-- A lookup that has been answered. -/
structure LookupReply where
  worker : Nat
  dir : Path
  fields : List String
deriving DecidableEq

/-- One evaluation of what the hooks in a directory read, with the files as they were. -/
structure Collection where
  dir : Path
  fs : FileSystem

/-- A session of lookups: the files, the memory, which directory each worker has obtained the cell
    of, and a log of the evaluations and answers so far. -/
structure Lookups where
  fs : FileSystem
  memo : HookMemo := .empty
  holding : Nat → Option Path := fun _ => none
  collections : List Collection := []
  replies : List LookupReply := []

namespace Lookups

/-- Works out the fields of a directory and logs it. -/
def logged (fs : FileSystem) (dir : Path) : StateM (List Collection) (List String) := do
  modify fun log => log ++ [⟨dir, fs⟩]
  return HookReads.collect fs dir

/-- One event.  A worker that has not settled its last cell obtains no other, and one that has
    obtained none settles none. -/
def step (s : Lookups) : LookupEvent → Lookups
  | .write path entry => { s with fs := s.fs.write path entry }
  | .remove path => { s with fs := s.fs.remove path }
  | .obtain worker dir =>
    match s.holding worker with
    | some _ => s
    | none =>
      { s with
        memo := s.memo.ensure dir
        holding := Function.update s.holding worker (some dir) }
  | .settle worker =>
    match s.holding worker with
    | none => s
    | some dir =>
      let ((fields, memo), collections) :=
        ((HookMemo.settle (logged s.fs) dir).run s.memo).run s.collections
      { s with
        memo
        collections
        holding := Function.update s.holding worker none
        replies := s.replies ++ [⟨worker, dir, fields⟩] }

/-- Events one after another. -/
def run (s : Lookups) (events : List LookupEvent) : Lookups :=
  events.foldl step s

/-- The directory that an event looks up, if it does. -/
def subject? (s : Lookups) : LookupEvent → Option Path
  | .write _ _ => none
  | .remove _ => none
  | .obtain _ dir => some dir
  | .settle worker => s.holding worker

@[simp] theorem run_nil (s : Lookups) : s.run [] = s := rfl

theorem run_append (s : Lookups) (events more : List LookupEvent) :
    s.run (events ++ more) = (s.run events).run more :=
  List.foldl_append ..

@[simp] theorem run_concat (s : Lookups) (events : List LookupEvent) (event : LookupEvent) :
    s.run (events ++ [event]) = (s.run events).step event :=
  run_append ..

/-! ## Settling a cell -/

/-- A cell that is filled is read. -/
theorem step_settle_filled {s : Lookups} {worker : Nat} {dir : Path} {fields : List String}
    (hholds : s.holding worker = some dir) (hcell : s.memo.cell? dir = some (some fields)) :
    s.step (.settle worker) =
      { s with
        holding := Function.update s.holding worker none
        replies := s.replies ++ [⟨worker, dir, fields⟩] } := by
  simp only [step, hholds, HookMemo.run_settle, hcell]

/-- A cell that is empty is filled with the fields of the moment, which are worked out for it. -/
theorem step_settle_empty {s : Lookups} {worker : Nat} {dir : Path}
    (hholds : s.holding worker = some dir)
    (hcell : ∀ fields, s.memo.cell? dir ≠ some (some fields)) :
    s.step (.settle worker) =
      { s with
        memo := s.memo.fill dir (HookReads.collect s.fs dir)
        collections := s.collections ++ [⟨dir, s.fs⟩]
        holding := Function.update s.holding worker none
        replies := s.replies ++ [⟨worker, dir, HookReads.collect s.fs dir⟩] } := by
  rcases hread : s.memo.cell? dir with _ | _ | fields
  · simp only [step, hholds, HookMemo.run_settle, hread]
    rfl
  · simp only [step, hholds, HookMemo.run_settle, hread]
    rfl
  · exact absurd hread (hcell fields)

/-- What one event does to a session. -/
inductive Moves (s : Lookups) : LookupEvent → Lookups → Prop
  /-- Only the files change, or nothing does. -/
  | files {event : LookupEvent} (fs : FileSystem) : Moves s event { s with fs }
  /-- An idle worker obtains a cell. -/
  | obtains {worker : Nat} {dir : Path} (hidle : s.holding worker = none) :
    Moves s (.obtain worker dir)
      { s with
        memo := s.memo.ensure dir
        holding := Function.update s.holding worker (some dir) }
  /-- A worker reads the cell that it holds. -/
  | reads {worker : Nat} {dir : Path} {fields : List String}
    (hholds : s.holding worker = some dir) (hcell : s.memo.cell? dir = some (some fields)) :
    Moves s (.settle worker)
      { s with
        holding := Function.update s.holding worker none
        replies := s.replies ++ [⟨worker, dir, fields⟩] }
  /-- A worker fills the cell that it holds. -/
  | fills {worker : Nat} {dir : Path} (hholds : s.holding worker = some dir)
    (hcell : ∀ fields, s.memo.cell? dir ≠ some (some fields)) :
    Moves s (.settle worker)
      { s with
        memo := s.memo.fill dir (HookReads.collect s.fs dir)
        collections := s.collections ++ [⟨dir, s.fs⟩]
        holding := Function.update s.holding worker none
        replies := s.replies ++ [⟨worker, dir, HookReads.collect s.fs dir⟩] }

theorem moves_step (s : Lookups) (event : LookupEvent) : s.Moves event (s.step event) := by
  cases event with
  | write path entry => exact .files _
  | remove path => exact .files _
  | obtain worker dir =>
    cases hholds : s.holding worker with
    | some other =>
      simp only [step, hholds]
      exact .files s.fs
    | none =>
      simp only [step, hholds]
      exact .obtains hholds
  | settle worker =>
    cases hholds : s.holding worker with
    | none =>
      simp only [step, hholds]
      exact .files s.fs
    | some dir =>
      by_cases hcell : ∃ fields, s.memo.cell? dir = some (some fields)
      · obtain ⟨fields, hcell⟩ := hcell
        rw [step_settle_filled hholds hcell]
        exact .reads hholds hcell
      · have hempty : ∀ fields, s.memo.cell? dir ≠ some (some fields) :=
          fun fields heq => hcell ⟨fields, heq⟩
        rw [step_settle_empty hholds hempty]
        exact .fills hholds hempty

/-! ## Cells -/

section

variable {s s' : Lookups} {event : LookupEvent} {dir : Path}

/-- Events about other directories leave a cell alone. -/
theorem Moves.frame (h : s.Moves event s')
    (hother : ∀ other, s.subject? event = some other → other.components ≠ dir.components) :
    s'.memo.cell? dir = s.memo.cell? dir := by
  cases h with
  | files fs => rfl
  | @obtains worker other hidle =>
    have hne := hother other rfl
    exact (HookMemo.cell?_ensure ..).trans (if_neg hne.symm)
  | reads hholds hcell => rfl
  | @fills worker other hholds hcell =>
    have hne := hother other hholds
    exact (HookMemo.cell?_fill ..).trans (if_neg hne.symm)

/-- A filled cell keeps what it holds. -/
theorem Moves.cell?_eq (h : s.Moves event s') {fields : List String}
    (hcell : s.memo.cell? dir = some (some fields)) : s'.memo.cell? dir = some (some fields) := by
  cases h with
  | files fs => exact hcell
  | @obtains worker other hidle =>
    refine (HookMemo.cell?_ensure ..).trans ?_
    split
    · rename_i hsame
      rw [← HookMemo.cell?_congr s.memo hsame, hcell]
      rfl
    · exact hcell
  | reads hholds hread => exact hcell
  | @fills worker other hholds hempty =>
    refine (HookMemo.cell?_fill ..).trans ?_
    rw [hcell]
    split <;> rfl

/-- A cell that has been made stays. -/
theorem Moves.cell?_ne_none (h : s.Moves event s') (hcell : s.memo.cell? dir ≠ none) :
    s'.memo.cell? dir ≠ none := by
  cases h with
  | files fs => exact hcell
  | @obtains worker other hidle =>
    rw [HookMemo.cell?_ensure]
    split
    · exact nofun
    · exact hcell
  | reads hholds hread => exact hcell
  | @fills worker other hholds hempty =>
    rw [HookMemo.cell?_fill]
    split
    · simpa using hcell
    · exact hcell

/-- Filling an empty cell puts the fields there. -/
theorem cell?_fill_of_empty {memo : HookMemo} {other : Path} {fields : List String}
    (hmade : memo.cell? dir ≠ none) (hempty : ∀ fields, memo.cell? dir ≠ some (some fields))
    (hsame : other.components = dir.components) :
    (memo.fill dir fields).cell? other = some (some fields) := by
  rw [HookMemo.cell?_fill, if_pos hsame, HookMemo.cell?_congr memo hsame]
  rcases hcell : memo.cell? dir with _ | _ | present
  · exact absurd hcell hmade
  · rfl
  · exact absurd hcell (hempty present)

end

/-! ## Sessions -/

/-- A worker holds cells that have been made.  A filled cell holds what was worked out for it, once,
    and what all lookups of it have answered; there has been one. -/
structure Consistent (s : Lookups) : Prop where
  held : ∀ worker dir, s.holding worker = some dir → s.memo.cell? dir ≠ none
  once : (s.collections.map fun c => c.dir.components).Nodup
  collected : ∀ c ∈ s.collections, ∃ fields, s.memo.cell? c.dir = some (some fields)
  answered : ∀ r ∈ s.replies, s.memo.cell? r.dir = some (some r.fields)
  settled : ∀ dir fields, s.memo.cell? dir = some (some fields) →
    ∃ r ∈ s.replies, r.dir.components = dir.components

theorem consistent_start (fs : FileSystem) : Consistent { fs } :=
  ⟨nofun, List.nodup_nil, nofun, nofun, nofun⟩

theorem forall_holding_update {P : Path → Prop} {holding : Nat → Option Path} {worker : Nat}
    {next : Option Path} (hnext : ∀ dir, next = some dir → P dir)
    (h : ∀ other dir, holding other = some dir → P dir) (other : Nat) (dir : Path)
    (hholds : Function.update holding worker next other = some dir) : P dir := by
  by_cases hsame : other = worker
  · subst hsame
    rw [Function.update_self] at hholds
    exact hnext dir hholds
  · rw [Function.update_of_ne hsame] at hholds
    exact h other dir hholds

/-- **Every event keeps a session consistent.** -/
theorem Consistent.moves {s s' : Lookups} {event : LookupEvent} (hs : s.Consistent)
    (h : s.Moves event s') : s'.Consistent := by
  have hmade : ∀ {dir}, s.memo.cell? dir ≠ none → s'.memo.cell? dir ≠ none := h.cell?_ne_none
  have hkept : ∀ {dir fields}, s.memo.cell? dir = some (some fields) →
      s'.memo.cell? dir = some (some fields) := h.cell?_eq
  cases h with
  | files fs => exact ⟨hs.held, hs.once, hs.collected, hs.answered, hs.settled⟩
  | @obtains worker dir hidle =>
    refine ⟨?_, hs.once, fun c hc => (hs.collected c hc).imp fun _ => hkept,
      fun r hr => hkept (hs.answered r hr), fun other fields hcell => ?_⟩
    · refine forall_holding_update ?_ fun other held hholds => hmade (hs.held other held hholds)
      rintro other heq
      cases heq
      show (s.memo.ensure dir).cell? dir ≠ none
      rw [HookMemo.cell?_ensure, if_pos rfl]
      exact nofun
    · -- the new cell is empty, so this one was there before
      refine hs.settled other fields ?_
      have hensured : (s.memo.ensure dir).cell? other = some (some fields) := hcell
      rw [HookMemo.cell?_ensure] at hensured
      split at hensured
      · rename_i hsame
        rw [HookMemo.cell?_congr s.memo hsame]
        cases hbefore : s.memo.cell? dir with
        | none => rw [hbefore] at hensured; cases hensured
        | some cell => rw [hbefore] at hensured; exact hensured
      · exact hensured
  | @reads worker dir fields hholds hcell =>
    refine ⟨forall_holding_update nofun hs.held, hs.once, hs.collected, fun r hr => ?_,
      fun other present hpresent => ?_⟩
    · rcases List.mem_append.1 hr with hr | hr
      · exact hs.answered r hr
      · rw [List.mem_singleton.1 hr]
        exact hcell
    · obtain ⟨r, hr, hsame⟩ := hs.settled other present hpresent
      exact ⟨r, List.mem_append_left _ hr, hsame⟩
  | @fills worker dir hholds hempty =>
    have hfilled : ∀ {other : Path}, other.components = dir.components →
        (s.memo.fill dir (HookReads.collect s.fs dir)).cell? other =
          some (some (HookReads.collect s.fs dir)) :=
      cell?_fill_of_empty (hs.held worker dir hholds) hempty
    refine ⟨forall_holding_update nofun fun other held hheld => hmade (hs.held other held hheld),
      ?_, fun c hc => ?_, fun r hr => ?_, fun other present hpresent => ?_⟩
    · -- an earlier evaluation for the directory would have filled the cell
      rw [List.map_append, List.nodup_append]
      refine ⟨hs.once, by simp, ?_⟩
      intro key hkey key' hkey' heq
      obtain ⟨c, hc, rfl⟩ := List.mem_map.1 hkey
      obtain ⟨fields, hcell⟩ := hs.collected c hc
      rw [List.map_singleton, List.mem_singleton] at hkey'
      exact hempty fields ((HookMemo.cell?_congr s.memo (heq.trans hkey')).symm.trans hcell)
    · rcases List.mem_append.1 hc with hc | hc
      · exact (hs.collected c hc).imp fun _ => hkept
      · rw [List.mem_singleton.1 hc]
        exact ⟨_, hfilled rfl⟩
    · rcases List.mem_append.1 hr with hr | hr
      · exact hkept (hs.answered r hr)
      · rw [List.mem_singleton.1 hr]
        exact hfilled rfl
    · by_cases hsame : other.components = dir.components
      · exact ⟨_, List.mem_append_right _ List.mem_cons_self, hsame.symm⟩
      · have hbefore : s.memo.cell? other = some (some present) := by
          rw [← hpresent]
          exact ((HookMemo.cell?_fill ..).trans (if_neg hsame)).symm
        obtain ⟨r, hr, hkey⟩ := hs.settled other present hbefore
        exact ⟨r, List.mem_append_left _ hr, hkey⟩

theorem Consistent.run : ∀ (events : List LookupEvent) {s : Lookups}, s.Consistent →
    (s.run events).Consistent
  | [], _, hs => hs
  | event :: events, s, hs => Consistent.run events (hs.moves (s.moves_step event))

theorem run_cell?_eq {dir : Path} {fields : List String} : ∀ (events : List LookupEvent)
    {s : Lookups}, s.memo.cell? dir = some (some fields) →
      (s.run events).memo.cell? dir = some (some fields)
  | [], _, hcell => hcell
  | event :: events, s, hcell => run_cell?_eq events ((s.moves_step event).cell?_eq hcell)

/-! ## The first to settle a cell -/

/-- The worker is about to settle the cell of the directory, which nobody has done before. -/
def IsFirst (s : Lookups) (worker : Nat) (dir : Path) : Prop :=
  s.holding worker = some dir ∧ ∀ r ∈ s.replies, r.dir.components ≠ dir.components

/-- The first to settle a cell fills it with the fields of the moment. -/
theorem IsFirst.cell?_eq {s : Lookups} (hs : s.Consistent) {worker : Nat} {dir : Path}
    (h : s.IsFirst worker dir) {other : Path} (hsame : other.components = dir.components) :
    (s.step (.settle worker)).memo.cell? other = some (some (HookReads.collect s.fs dir)) := by
  have hempty : ∀ fields, s.memo.cell? dir ≠ some (some fields) := by
    intro fields hcell
    obtain ⟨r, hr, hkey⟩ := hs.settled dir fields hcell
    exact h.2 r hr hkey
  rw [step_settle_empty h.1 hempty]
  exact cell?_fill_of_empty (hs.held worker dir h.1) hempty hsame

/-- Whoever fills a cell is the first to settle it. -/
theorem Moves.isFirst {s s' : Lookups} {event : LookupEvent} (hs : s.Consistent)
    (h : s.Moves event s') {dir : Path} {fields : List String}
    (hbefore : ∀ fields, s.memo.cell? dir ≠ some (some fields))
    (hafter : s'.memo.cell? dir = some (some fields)) :
    ∃ worker other, event = .settle worker ∧ other.components = dir.components ∧
      s.IsFirst worker other := by
  cases h with
  | files fs => exact absurd hafter (hbefore fields)
  | @obtains worker other hidle =>
    have hmoves : s.Moves (.obtain worker other) _ := .obtains hidle
    obtain ⟨r, hr, hkey⟩ := (hs.moves hmoves).settled dir fields hafter
    have hcell := hs.answered r hr
    rw [HookMemo.cell?_congr s.memo hkey] at hcell
    exact absurd hcell (hbefore r.fields)
  | reads hholds hcell => exact absurd hafter (hbefore fields)
  | @fills worker other hholds hempty =>
    have hsame : other.components = dir.components := by
      by_contra hne
      have hother : ∀ held, s.subject? (.settle worker) = some held →
          held.components ≠ dir.components := by
        intro held hheld
        rw [show held = other from Option.some.inj (hheld.symm.trans hholds)]
        exact hne
      exact hbefore fields (((Moves.fills hholds hempty).frame hother).symm.trans hafter)
    refine ⟨worker, other, rfl, hsame, hholds, fun r hr hkey => ?_⟩
    have hcell := hs.answered r hr
    rw [HookMemo.cell?_congr s.memo hkey] at hcell
    exact hempty r.fields hcell

/-- A filled cell was filled by the first that settled it. -/
theorem exists_first (fs : FileSystem) (events : List LookupEvent) {dir : Path}
    {fields : List String}
    (hcell : (run { fs } events).memo.cell? dir = some (some fields)) :
    ∃ before worker other after, events = before ++ .settle worker :: after ∧
      other.components = dir.components ∧ (run { fs } before).IsFirst worker other := by
  induction events using List.reverseRecOn generalizing fields with
  | nil => cases hcell
  | append_singleton events event ih =>
    by_cases hbefore : ∃ fields, (run { fs } events).memo.cell? dir = some (some fields)
    · obtain ⟨fields, hbefore⟩ := hbefore
      obtain ⟨before, worker, other, after, rfl, hsame, hfirst⟩ := ih hbefore
      exact ⟨before, worker, other, after ++ [event], by simp, hsame, hfirst⟩
    · have hmoves := (run { fs } events).moves_step event
      rw [run_concat] at hcell
      obtain ⟨worker, other, rfl, hsame, hfirst⟩ := hmoves.isFirst
        ((consistent_start fs).run events) (fun fields heq => hbefore ⟨fields, heq⟩) hcell
      exact ⟨events, worker, other, [], rfl, hsame, hfirst⟩

/-! ## Answers -/

/-- An idle worker that is not interrupted gets what the memory gives when it is asked. -/
theorem obtain_settle_eq_required {s : Lookups} {worker : Nat} (hidle : s.holding worker = none)
    (dir : Path) :
    let after := (s.step (.obtain worker dir)).step (.settle worker)
    after.memo = ((HookMemo.required s.fs dir).run s.memo).2 ∧
      after.replies =
        s.replies ++ [⟨worker, dir, ((HookMemo.required s.fs dir).run s.memo).1⟩] := by
  have hobtain : s.step (.obtain worker dir) =
      { s with
        memo := s.memo.ensure dir
        holding := Function.update s.holding worker (some dir) } := by
    simp only [step, hidle]
  have hholds : (s.step (.obtain worker dir)).holding worker = some dir := by
    rw [hobtain]
    exact Function.update_self ..
  rw [HookMemo.run_required]
  rcases hcell : (s.memo.ensure dir).cell? dir with _ | _ | fields
  · rw [step_settle_empty hholds (by rw [hobtain, hcell]; exact nofun), hobtain]
    exact ⟨rfl, rfl⟩
  · rw [step_settle_empty hholds (by rw [hobtain, hcell]; exact nofun), hobtain]
    exact ⟨rfl, rfl⟩
  · rw [step_settle_filled hholds (by rw [hobtain]; exact hcell), hobtain]
    exact ⟨rfl, rfl⟩

/-- **What the hooks of a directory read is worked out once.**  In every finite sequence of file
    changes and of lookups by any number of workers, whose two steps interleave in any way:

    * the fields of a directory, which is known by its components, are worked out at most once;
    * every answered lookup has a first step that settled the cell of its directory, and was
      answered with the fields that the hooks there read at that moment, none if the directory was
      missing;
    * so all lookups of one directory are answered alike;
    * lookups of other directories leave its cell as it is;
    * every worker that holds a cell is answered when it settles it, and an idle one that is not
      interrupted is answered as the memory answers. -/
theorem lookups_collect_once (fs : FileSystem) (events : List LookupEvent) :
    let start : Lookups := { fs }
    let s := start.run events
    (s.collections.map fun c => c.dir.components).Nodup ∧
    (∀ r ∈ s.replies, ∃ before worker dir after, events = before ++ .settle worker :: after ∧
      dir.components = r.dir.components ∧ (start.run before).IsFirst worker dir) ∧
    (∀ before worker dir after, events = before ++ .settle worker :: after →
      (start.run before).IsFirst worker dir →
        ∀ r ∈ s.replies, r.dir.components = dir.components →
          r.fields = HookReads.collect (start.run before).fs r.dir ∧
            ((start.run before).fs.isDirectory dir = false → r.fields = [])) ∧
    (∀ r ∈ s.replies, ∀ r' ∈ s.replies, r.dir.components = r'.dir.components →
      r.fields = r'.fields) ∧
    (∀ dir event, (∀ other, s.subject? event = some other → other.components ≠ dir.components) →
      (s.step event).memo.cell? dir = s.memo.cell? dir) ∧
    (∀ worker dir, s.holding worker = some dir →
      ∃ fields, (s.step (.settle worker)).replies = s.replies ++ [⟨worker, dir, fields⟩]) ∧
    ∀ worker dir, s.holding worker = none →
      let after := (s.step (.obtain worker dir)).step (.settle worker)
      after.memo = ((HookMemo.required s.fs dir).run s.memo).2 ∧
        after.replies =
          s.replies ++ [⟨worker, dir, ((HookMemo.required s.fs dir).run s.memo).1⟩] := by
  intro start s
  have hs : s.Consistent := (consistent_start fs).run events
  refine ⟨hs.once, fun r hr => exists_first fs events (hs.answered r hr), ?_, ?_, ?_, ?_, ?_⟩
  · intro before worker dir after hevents hfirst r hr hsame
    have hbefore : (start.run before).Consistent := (consistent_start fs).run before
    -- the cell is filled at that step, and keeps its fields through the rest of the session
    have hcell : s.memo.cell? r.dir =
        some (some (HookReads.collect (start.run before).fs dir)) := by
      show (start.run events).memo.cell? r.dir = _
      rw [hevents, run_append]
      exact run_cell?_eq after (hfirst.cell?_eq hbefore hsame)
    have hfields : r.fields = HookReads.collect (start.run before).fs dir := by
      simpa using (hs.answered r hr).symm.trans hcell
    refine ⟨?_, fun hmissing => ?_⟩
    · rw [hfields, HookReads.collect_congr _ hsame]
    · rw [hfields, HookReads.collect_of_not_directory hmissing]
  · intro r hr r' hr' hsame
    have hcell := hs.answered r hr
    rw [HookMemo.cell?_congr _ hsame, hs.answered r' hr'] at hcell
    simpa using hcell.symm
  · exact fun dir event => (s.moves_step event).frame
  · intro worker dir hholds
    by_cases hcell : ∃ fields, s.memo.cell? dir = some (some fields)
    · obtain ⟨fields, hcell⟩ := hcell
      exact ⟨fields, by rw [step_settle_filled hholds hcell]⟩
    · exact ⟨_, by rw [step_settle_empty hholds fun fields heq => hcell ⟨fields, heq⟩]⟩
  · exact fun worker dir hidle => obtain_settle_eq_required hidle dir

-- Both workers obtain the cell before there is a hook. The one that settles it first finds the hook;
-- that is what the other one and a later lookup are told, when the files are gone again.
example :
    let hook : Entry := .file (.text
      "<?php class H\x7bfunction beforeSave($e)\x7b$e->get('a');\x7d\x7d")
    let events : List LookupEvent :=
      [.obtain 0 ⟨"A"⟩, .obtain 1 ⟨"A/."⟩, .write ⟨"A/H.php"⟩ hook, .settle 1, .remove ⟨"A"⟩,
        .settle 0, .obtain 1 ⟨"A//"⟩, .settle 1]
    ((run { fs := { root := .directory [] } } events).replies.map fun r => (r.worker, r.fields)) =
      [(1, ["a"]), (0, ["a"]), (1, ["a"])] := by
  decide +kernel

end Lookups

end LayerLint
