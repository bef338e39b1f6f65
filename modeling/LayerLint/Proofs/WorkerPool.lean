import LayerLint.WorkerPool
import Mathlib.Data.List.Perm.Basic

/-!
# Worker pools do not show their schedule

Whatever order the workers make their steps in, once all of them have stopped the results are those
of a plain walk over the items.

* `Moves` — what one step can do, as a relation; `moves_step` says that `step` does one of these;
* `Sound` — what every step keeps: the indices taken so far are exactly those below the counter,
  each taken once, and every result is right for its index;
* `results_of_finished` — a finished pool has the results of all items in their order;
* `owner_of_finished` — each index has been worked on once, by one worker;
* `finished_turns` — taking turns ends after two rounds for each item and one more;
* `mapItems_spec` — the whole run.

Results are taken to be independent of the state of the worker, and of the shared state as far as an
invariant of the latter goes.
-/

set_option autoImplicit false

namespace LayerLint

universe u

variable {τ σ α β : Type u}

/-- The indices that a worker has taken: the one it holds and those of its results. -/
def Worker.taken (worker : Worker τ β) : List Nat :=
  (match worker.phase with
    | .holding index => [index]
    | _ => []) ++ worker.results.map Prod.fst

/-- The worker has taken an item and not yet worked on it. -/
def Worker.isHolding (worker : Worker τ β) : Bool :=
  match worker.phase with
  | .holding _ => true
  | _ => false

namespace WorkerPool

variable {work : α → StateT τ (StateM σ) β} {items : List α}

/-! ## One step -/

/-- Nobody with this number has anything left to do. -/
def Halted (pool : WorkerPool τ σ β) (number : Nat) : Prop :=
  ∀ worker, pool.workers[number]? = some worker → worker.phase = .stopped

/-- What one step of a worker can do. -/
inductive Moves (work : α → StateT τ (StateM σ) β) (items : List α) (pool : WorkerPool τ σ β)
    (number : Nat) : WorkerPool τ σ β → Prop
  /-- Nobody has the number, or the worker has stopped. -/
  | idle (h : pool.Halted number) :
    Moves work items pool number pool
  /-- The worker takes the next index. -/
  | take {worker : Worker τ β} (hworker : pool.workers[number]? = some worker)
    (hphase : worker.phase = .ready) (hnext : pool.next < items.length) :
    Moves work items pool number
      { pool with
        next := pool.next + 1
        workers := pool.workers.set number { worker with phase := .holding pool.next } }
  /-- The worker finds no further item. -/
  | stop {worker : Worker τ β} (hworker : pool.workers[number]? = some worker)
    (hphase : worker.phase = .ready) (hnext : items.length ≤ pool.next) :
    Moves work items pool number
      { pool with
        next := pool.next + 1
        workers := pool.workers.set number { worker with phase := .stopped } }
  /-- The worker works on the item that it holds. -/
  | finish {worker : Worker τ β} {index : Nat} {item : α} {result : β} {state : τ} {shared : σ}
    (hworker : pool.workers[number]? = some worker) (hphase : worker.phase = .holding index)
    (hitem : items[index]? = some item)
    (hwork : ((work item).run worker.state).run pool.shared = ((result, state), shared)) :
    Moves work items pool number
      { pool with
        shared
        workers := pool.workers.set number
          { phase := .ready, state, results := worker.results ++ [(index, result)] } }

/-- A step does what a step can do, if nobody holds an index without item. -/
theorem moves_step {pool : WorkerPool τ σ β}
    (hheld : ∀ worker ∈ pool.workers, ∀ index, worker.phase = .holding index →
      index < items.length) (number : Nat) :
    Moves work items pool number (step work items pool number) := by
  unfold step
  split
  · rename_i hnone
    exact .idle fun worker hworker => by rw [hnone] at hworker; cases hworker
  · rename_i worker hworker
    split
    · rename_i hphase
      refine .idle fun other hother => ?_
      rw [hworker] at hother
      cases hother
      exact hphase
    · rename_i hphase
      by_cases hnext : pool.next < items.length
      · simp only [hnext, if_true]
        exact .take hworker hphase hnext
      · simp only [hnext, if_false]
        exact .stop hworker hphase (by omega)
    · rename_i index hphase
      have hindex := hheld worker (List.mem_of_getElem? hworker) index hphase
      rw [List.getElem?_eq_getElem hindex]
      exact .finish hworker hphase (List.getElem?_eq_getElem hindex) rfl

/-- A step changes the worker with that number only. -/
theorem Moves.frame {pool pool' : WorkerPool τ σ β} {number : Nat}
    (h : Moves work items pool number pool') {other : Nat} (hne : other ≠ number) :
    pool'.workers[other]? = pool.workers[other]? := by
  cases h with
  | idle => rfl
  | take => exact List.getElem?_set_ne (Ne.symm hne)
  | stop => exact List.getElem?_set_ne (Ne.symm hne)
  | finish => exact List.getElem?_set_ne (Ne.symm hne)

theorem Moves.length_eq {pool pool' : WorkerPool τ σ β} {number : Nat}
    (h : Moves work items pool number pool') : pool'.workers.length = pool.workers.length := by
  cases h <;> simp

/-! ## What every step keeps -/

/-- Work whose result for an item is fixed, whatever the state of the worker, as long as what the
    workers share satisfies `P`; and `P` is kept. -/
def Steady (work : α → StateT τ (StateM σ) β) (P : σ → Prop) (g : α → β) : Prop :=
  ∀ item state shared, P shared →
    (((work item).run state).run shared).1.1 = g item ∧ P (((work item).run state).run shared).2

/-- The indices taken are those below the counter, each taken once; every result is right for its
    index; nobody stops while there are items; and `P` holds of what is shared. -/
structure Sound (P : σ → Prop) (g : α → β) (items : List α) (pool : WorkerPool τ σ β) : Prop where
  taken : (pool.workers.flatMap Worker.taken).Perm (List.range (min pool.next items.length))
  right : ∀ worker ∈ pool.workers, ∀ e ∈ worker.results, items[e.1]?.map g = some e.2
  stopped : ∀ worker ∈ pool.workers, worker.phase = .stopped → items.length ≤ pool.next
  shared : P pool.shared

variable {P : σ → Prop} {g : α → β}

theorem sound_start (count : Nat) (init : τ) {shared : σ} (h : P shared) :
    Sound P g items (start count init shared : WorkerPool τ σ β) where
  taken := by
    have hnone :
        (List.replicate count ({ state := init } : Worker τ β)).flatMap Worker.taken = [] := by
      rw [List.flatMap_eq_nil_iff]
      intro worker hworker
      rw [List.eq_of_mem_replicate hworker]
      rfl
    simp [start, hnone]
  right := by
    intro worker hworker e he
    rw [List.eq_of_mem_replicate hworker] at he
    cases he
  stopped := by
    intro worker hworker hphase
    rw [List.eq_of_mem_replicate hworker] at hphase
    cases hphase
  shared := h

theorem Sound.held_lt {pool : WorkerPool τ σ β} (h : Sound P g items pool) {worker : Worker τ β}
    (hworker : worker ∈ pool.workers) {index : Nat} (hphase : worker.phase = .holding index) :
    index < items.length := by
  have hmem : index ∈ pool.workers.flatMap Worker.taken :=
    List.mem_flatMap.2 ⟨worker, hworker, by simp [Worker.taken, hphase]⟩
  have hrange := h.taken.mem_iff.1 hmem
  rw [List.mem_range] at hrange
  omega

/-- The indices taken after one worker has changed, up to order. -/
theorem flatMap_set_perm {γ : Type} (f : Worker τ β → List γ) {workers : List (Worker τ β)}
    {number : Nat} {worker : Worker τ β} (h : workers[number]? = some worker)
    (worker' : Worker τ β) :
    (workers.flatMap f).Perm (f worker ++ (workers.eraseIdx number).flatMap f) ∧
      ((workers.set number worker').flatMap f).Perm
        (f worker' ++ (workers.eraseIdx number).flatMap f) := by
  obtain ⟨hlt, rfl⟩ := List.getElem?_eq_some_iff.1 h
  exact ⟨(List.getElem_cons_eraseIdx_perm hlt).symm.flatMap_right f,
    (List.set_perm_cons_eraseIdx hlt worker').flatMap_right f⟩

/-- Every worker after a step is one from before, or the one that made the step. -/
theorem forall_mem_set {workers : List (Worker τ β)} {number : Nat} {worker' : Worker τ β}
    {Q : Worker τ β → Prop} (h : ∀ worker ∈ workers, Q worker) (h' : Q worker') :
    ∀ worker ∈ workers.set number worker', Q worker := by
  intro worker hworker
  rcases List.mem_or_eq_of_mem_set hworker with hmem | rfl
  · exact h worker hmem
  · exact h'

/-- **Every step keeps the pool sound.** -/
theorem Sound.moves (hwork : Steady work P g) {pool pool' : WorkerPool τ σ β} {number : Nat}
    (h : Sound P g items pool) (hmove : Moves work items pool number pool') :
    Sound P g items pool' := by
  cases hmove with
  | idle => exact h
  | @take worker hworker hphase hnext =>
    obtain ⟨hbefore, hafter⟩ := flatMap_set_perm Worker.taken hworker
      { worker with phase := .holding pool.next }
    refine ⟨?_, ?_, ?_, h.shared⟩
    · -- one index more is taken, and it is the counter
      have htaken : ({ worker with phase := .holding pool.next } : Worker τ β).taken =
          pool.next :: worker.taken := by
        simp [Worker.taken, hphase]
      have hrange : List.range (min (pool.next + 1) items.length) =
          List.range (min pool.next items.length) ++ [pool.next] := by
        rw [show min (pool.next + 1) items.length = pool.next + 1 by omega,
          show min pool.next items.length = pool.next by omega, List.range_succ]
      rw [htaken] at hafter
      rw [hrange]
      refine hafter.trans ?_
      rw [List.cons_append]
      refine (List.Perm.cons _ (hbefore.symm.trans h.taken)).trans ?_
      exact (List.perm_append_singleton _ _).symm
    · exact forall_mem_set h.right (h.right worker (List.mem_of_getElem? hworker))
    · refine forall_mem_set (fun other hother hstopped => ?_) (fun hstopped => by cases hstopped)
      have := h.stopped other hother hstopped
      simp only
      omega
  | @stop worker hworker hphase hnext =>
    obtain ⟨hbefore, hafter⟩ := flatMap_set_perm Worker.taken hworker
      { worker with phase := .stopped }
    refine ⟨?_, ?_, ?_, h.shared⟩
    · have htaken : ({ worker with phase := .stopped } : Worker τ β).taken = worker.taken := by
        simp [Worker.taken, hphase]
      have hmin : min (pool.next + 1) items.length = min pool.next items.length := by omega
      rw [htaken] at hafter
      rw [hmin]
      exact hafter.trans (hbefore.symm.trans h.taken)
    · exact forall_mem_set h.right (h.right worker (List.mem_of_getElem? hworker))
    · refine forall_mem_set (fun other hother hstopped => ?_) (fun _ => ?_)
      · have := h.stopped other hother hstopped
        simp only
        omega
      · simp only
        omega
  | @finish worker index item result state shared hworker hphase hitem hdone =>
    obtain ⟨hresult, hshared⟩ := hwork item worker.state pool.shared h.shared
    rw [hdone] at hresult hshared
    obtain ⟨hbefore, hafter⟩ := flatMap_set_perm Worker.taken hworker
      { phase := .ready, state, results := worker.results ++ [(index, result)] }
    refine ⟨?_, ?_, ?_, hshared⟩
    · -- the index moves from the hand of the worker to its results
      have htaken : (({ phase := .ready, state, results := worker.results ++ [(index, result)] } :
          Worker τ β).taken).Perm worker.taken := by
        simp only [Worker.taken, hphase, List.map_append, List.map_cons, List.map_nil,
          List.nil_append]
        exact List.perm_append_singleton _ _
      exact (hafter.trans (htaken.append_right _)).trans (hbefore.symm.trans h.taken)
    · refine forall_mem_set h.right fun e he => ?_
      rcases List.mem_append.1 he with he | he
      · exact h.right worker (List.mem_of_getElem? hworker) e he
      · rw [List.mem_singleton] at he
        subst he
        simp only [hitem, Option.map_some]
        exact congrArg some hresult.symm
    · exact forall_mem_set h.stopped (fun hstopped => by cases hstopped)

theorem Sound.moves_step {pool : WorkerPool τ σ β} (h : Sound P g items pool) (number : Nat) :
    Moves work items pool number (step work items pool number) :=
  WorkerPool.moves_step (fun _ hworker _ hphase => h.held_lt hworker hphase) number

theorem Sound.step (hwork : Steady work P g) {pool : WorkerPool τ σ β} (h : Sound P g items pool)
    (number : Nat) : Sound P g items (step work items pool number) :=
  h.moves hwork (h.moves_step number)

/-- **Every run keeps the pool sound.** -/
theorem Sound.run (hwork : Steady work P g) : ∀ (schedule : List Nat) {pool : WorkerPool τ σ β},
    Sound P g items pool → Sound P g items (run work items pool schedule)
  | [], _, h => h
  | number :: schedule, _, h => Sound.run hwork schedule (h.step hwork number)

/-! ## Finished pools -/

theorem isFinished_iff (pool : WorkerPool τ σ β) :
    pool.isFinished = true ↔ ∀ worker ∈ pool.workers, worker.phase = .stopped := by
  simp [isFinished]

/-- The indices of all results of a finished pool are those of the items, each once. -/
theorem Sound.indices_perm {pool : WorkerPool τ σ β} (h : Sound P g items pool)
    (hfinished : pool.isFinished = true) (hworkers : pool.workers ≠ []) :
    (pool.workers.flatMap fun worker => worker.results.map Prod.fst).Perm
      (List.range items.length) := by
  have hstopped := (isFinished_iff pool).1 hfinished
  obtain ⟨worker, hworker⟩ := List.exists_mem_of_ne_nil _ hworkers
  have hnext := h.stopped worker hworker (hstopped worker hworker)
  have htaken : pool.workers.flatMap Worker.taken =
      pool.workers.flatMap fun worker => worker.results.map Prod.fst := by
    refine List.flatMap_congr fun worker hworker => ?_
    simp [Worker.taken, hstopped worker hworker]
  rw [← htaken, show items.length = min pool.next items.length by omega]
  exact h.taken

theorem map_getElem?_range (items : List α) (g : α → β) :
    (List.range items.length).map (fun i => items[i]?.map g) = (items.map g).map some := by
  refine List.ext_getElem (by simp) fun i hi hi' => ?_
  have hlt : i < items.length := by simpa using hi
  simp [List.getElem?_eq_getElem hlt]

/-- **A finished pool has the results of all items in their order.** -/
theorem Sound.results_of_finished {pool : WorkerPool τ σ β} (h : Sound P g items pool)
    (hfinished : pool.isFinished = true) (hworkers : pool.workers ≠ []) :
    pool.results = items.map g := by
  have hsorted := List.mergeSort_perm (pool.workers.flatMap Worker.results)
    fun a b => decide (a.1 ≤ b.1)
  have hpairwise : ((pool.workers.flatMap Worker.results).mergeSort
      fun a b => decide (a.1 ≤ b.1)).Pairwise fun a b => decide (a.1 ≤ b.1) = true :=
    List.pairwise_mergeSort (by simp only [decide_eq_true_eq]; omega)
      (by simp only [Bool.or_eq_true, decide_eq_true_eq]; omega) _
  generalize hlist : (pool.workers.flatMap Worker.results).mergeSort
    (fun a b => decide (a.1 ≤ b.1)) = sorted at hsorted hpairwise
  -- sorted by index, the results stand at their indices
  have hindices : sorted.map Prod.fst = List.range items.length := by
    have hordered : (sorted.map Prod.fst).Pairwise (· ≤ ·) := by
      rw [List.pairwise_map]
      exact hpairwise.imp fun hle => by simpa using hle
    have hperm : (sorted.map Prod.fst).Perm (List.range items.length) := by
      refine (hsorted.map Prod.fst).trans ?_
      rw [List.map_flatMap]
      exact h.indices_perm hfinished hworkers
    exact hperm.eq_of_pairwise (fun a b _ _ => Nat.le_antisymm) hordered List.pairwise_le_range
  have hright : ∀ e ∈ sorted, items[e.1]?.map g = some e.2 := by
    intro e he
    obtain ⟨worker, hworker, hmem⟩ := List.mem_flatMap.1 (hsorted.mem_iff.1 he)
    exact h.right worker hworker e hmem
  have hsome : (sorted.map Prod.snd).map some = (items.map g).map some := by
    rw [← map_getElem?_range items g, ← hindices, List.map_map, List.map_map]
    refine List.map_congr_left fun e he => ?_
    exact (hright e he).symm
  rw [results, hlist]
  exact List.map_injective_iff.2 (fun _ _ => Option.some.inj) hsome

/-- What occurs once in several lists occurs in one of them. -/
theorem exists_owner {γ : Type u} (f : γ → List Nat) (index : Nat) : ∀ lists : List γ,
    (lists.flatMap f).count index = 1 →
      ∃ owner < lists.length, ∀ number a, lists[number]? = some a →
        (f a).count index = if number = owner then 1 else 0
  | [], h => by simp at h
  | a :: rest, h => by
    rw [List.flatMap_cons, List.count_append] at h
    by_cases ha : (f a).count index = 0
    · obtain ⟨owner, howner, hcount⟩ := exists_owner f index rest (by omega)
      refine ⟨owner + 1, by simpa using howner, fun number b hb => ?_⟩
      cases number with
      | zero =>
        cases hb
        simp [ha]
      | succ number =>
        rw [hcount number b (by simpa using hb)]
        simp
    · refine ⟨0, by simp, fun number b hb => ?_⟩
      cases number with
      | zero =>
        cases hb
        rw [if_pos rfl]
        omega
      | succ number =>
        have hmem : b ∈ rest := List.mem_of_getElem? (by simpa using hb)
        have hnone : index ∉ rest.flatMap f := by
          rw [← List.count_eq_zero]
          omega
        rw [if_neg (by omega), List.count_eq_zero]
        exact fun hindex => hnone (List.mem_flatMap.2 ⟨b, hmem, hindex⟩)

/-- **Each index has been worked on once, by one worker.** -/
theorem Sound.owner_of_finished {pool : WorkerPool τ σ β} (h : Sound P g items pool)
    (hfinished : pool.isFinished = true) (hworkers : pool.workers ≠ []) {index : Nat}
    (hindex : index < items.length) :
    ∃ owner < pool.workers.length, ∀ number worker, pool.workers[number]? = some worker →
      (worker.results.map Prod.fst).count index = if number = owner then 1 else 0 := by
  refine exists_owner (fun worker : Worker τ β => worker.results.map Prod.fst) index _ ?_
  rw [(h.indices_perm hfinished hworkers).count_eq, List.count_range]
  simp [hindex]

/-! ## Taking turns comes to an end -/

/-- The steps that are still to be made before nothing is left but to stop. -/
def remaining (items : List α) (pool : WorkerPool τ σ β) : Nat :=
  2 * (items.length - pool.next) + pool.workers.countP Worker.isHolding

theorem countP_set_eq {workers : List (Worker τ β)} {number : Nat} {worker : Worker τ β}
    (h : workers[number]? = some worker) (worker' : Worker τ β) :
    ∃ others, workers.countP Worker.isHolding = others + (if worker.isHolding then 1 else 0) ∧
      (workers.set number worker').countP Worker.isHolding =
        others + if worker'.isHolding then 1 else 0 := by
  obtain ⟨hlt, rfl⟩ := List.getElem?_eq_some_iff.1 h
  refine ⟨(workers.eraseIdx number).countP Worker.isHolding, ?_, ?_⟩
  · rw [← (List.getElem_cons_eraseIdx_perm hlt).countP_eq, List.countP_cons]
  · rw [(List.set_perm_cons_eraseIdx hlt worker').countP_eq, List.countP_cons]

/-- The step of a worker that holds an item, or that takes one, brings the end closer. -/
theorem Moves.remaining_lt {pool pool' : WorkerPool τ σ β} {number : Nat}
    (h : Moves work items pool number pool') {worker : Worker τ β}
    (hworker : pool.workers[number]? = some worker)
    (hbusy : worker.isHolding = true ∨ worker.phase = .ready ∧ pool.next < items.length) :
    remaining items pool' < remaining items pool := by
  cases h with
  | idle hidle =>
    have hstopped := hidle worker hworker
    simp [Worker.isHolding, hstopped] at hbusy
  | @take worker' hworker' hphase hnext =>
    obtain ⟨others, hold, hnew⟩ := countP_set_eq hworker'
      { worker' with phase := .holding pool.next }
    simp only [remaining, hold, hnew, Worker.isHolding, hphase]
    simp only [Bool.false_eq_true, if_false, if_true]
    omega
  | stop hworker' hphase hnext =>
    rw [hworker'] at hworker
    cases hworker
    rcases hbusy with hholding | ⟨_, hlt⟩
    · simp [Worker.isHolding, hphase] at hholding
    · omega
  | @finish worker' index item result state shared hworker' hphase =>
    obtain ⟨others, hold, hnew⟩ := countP_set_eq hworker'
      { phase := .ready, state, results := worker'.results ++ [(index, result)] }
    simp only [remaining, hold, hnew, Worker.isHolding, hphase]
    simp

theorem Moves.remaining_le {pool pool' : WorkerPool τ σ β} {number : Nat}
    (h : Moves work items pool number pool') : remaining items pool' ≤ remaining items pool := by
  cases h with
  | idle => exact Nat.le_refl _
  | @stop worker hworker hphase hnext =>
    obtain ⟨others, hold, hnew⟩ := countP_set_eq hworker { worker with phase := .stopped }
    simp only [remaining, hold, hnew, Worker.isHolding, hphase]
    simp only [Bool.false_eq_true, if_false]
    omega
  | take hworker hphase hnext =>
    have hmove : Moves work items pool number _ := .take hworker hphase hnext
    exact Nat.le_of_lt (hmove.remaining_lt hworker (Or.inr ⟨hphase, hnext⟩))
  | finish hworker hphase hitem hdone =>
    have hmove : Moves work items pool number _ := .finish hworker hphase hitem hdone
    exact Nat.le_of_lt (hmove.remaining_lt hworker (Or.inl (by simp [Worker.isHolding, hphase])))

/-- Who has halted stays so. -/
theorem Moves.halted {pool pool' : WorkerPool τ σ β} {number other : Nat}
    (h : Moves work items pool number pool') (hother : pool.Halted other) :
    pool'.Halted other := by
  by_cases hsame : other = number
  · subst hsame
    cases h with
    | idle => exact hother
    | take hworker hphase => exact nomatch hphase.symm.trans (hother _ hworker)
    | stop hworker hphase => exact nomatch hphase.symm.trans (hother _ hworker)
    | finish hworker hphase => exact nomatch hphase.symm.trans (hother _ hworker)
  · intro worker hworker
    exact hother worker ((h.frame hsame).symm.trans hworker)

/-- Where nothing remains, a worker halts at its next step. -/
theorem Moves.halted_of_remaining {pool pool' : WorkerPool τ σ β} {number : Nat}
    (h : Moves work items pool number pool') (hzero : remaining items pool = 0) :
    pool'.Halted number := by
  have hidle : ∀ worker, pool.workers[number]? = some worker →
      ¬ (worker.isHolding = true ∨ worker.phase = .ready ∧ pool.next < items.length) := by
    intro worker hworker hbusy
    have := h.remaining_lt hworker hbusy
    omega
  cases h with
  | idle hhalted => exact hhalted
  | take hworker hphase hnext => exact absurd (Or.inr ⟨hphase, hnext⟩) (hidle _ hworker)
  | stop hworker hphase hnext =>
    intro worker' hworker'
    obtain ⟨hlt, -⟩ := List.getElem?_eq_some_iff.1 hworker
    rw [List.getElem?_set_self hlt] at hworker'
    cases hworker'
    rfl
  | finish hworker hphase =>
    exact absurd (Or.inl (by simp [Worker.isHolding, hphase])) (hidle _ hworker)

theorem Sound.run_length (hwork : Steady work P g) : ∀ (schedule : List Nat)
    {pool : WorkerPool τ σ β}, Sound P g items pool →
      (WorkerPool.run work items pool schedule).workers.length = pool.workers.length
  | [], _, _ => rfl
  | number :: schedule, pool, h => by
    have hmove : Moves work items pool number _ := h.moves_step number
    exact (run_length hwork schedule (h.step hwork number)).trans hmove.length_eq

theorem Sound.remaining_run_le (hwork : Steady work P g) : ∀ (schedule : List Nat)
    {pool : WorkerPool τ σ β}, Sound P g items pool →
      remaining items (WorkerPool.run work items pool schedule) ≤ remaining items pool
  | [], _, _ => Nat.le_refl _
  | number :: schedule, _, h =>
    Nat.le_trans (remaining_run_le hwork schedule (h.step hwork number))
      (h.moves_step number).remaining_le

/-- A run in which a worker that holds an item has a turn brings the end closer. -/
theorem Sound.remaining_run_lt (hwork : Steady work P g) {number : Nat} {worker : Worker τ β}
    (hholding : worker.isHolding = true) : ∀ (schedule : List Nat) {pool : WorkerPool τ σ β},
      Sound P g items pool → pool.workers[number]? = some worker → number ∈ schedule →
        remaining items (WorkerPool.run work items pool schedule) < remaining items pool
  | [], _, _, _, hmem => by cases hmem
  | first :: schedule, pool, h, hworker, hmem => by
    have hmove : Moves work items pool first _ := h.moves_step first
    by_cases hfirst : number = first
    · subst hfirst
      exact Nat.lt_of_le_of_lt (remaining_run_le hwork schedule (h.step hwork number))
        (hmove.remaining_lt hworker (Or.inl hholding))
    · have hrest := remaining_run_lt hwork hholding schedule (h.step hwork first)
        ((hmove.frame hfirst).trans hworker) ((List.mem_cons.1 hmem).resolve_left hfirst)
      exact Nat.lt_of_lt_of_le hrest hmove.remaining_le

theorem Sound.halted_run (hwork : Steady work P g) {number : Nat} : ∀ (schedule : List Nat)
    {pool : WorkerPool τ σ β}, Sound P g items pool → pool.Halted number →
      (WorkerPool.run work items pool schedule).Halted number
  | [], _, _, hhalted => hhalted
  | first :: schedule, _, h, hhalted =>
    halted_run hwork schedule (h.step hwork first) ((h.moves_step first).halted hhalted)

/-- Where nothing remains, everybody halts who has a turn. -/
theorem Sound.halted_of_mem (hwork : Steady work P g) {number : Nat} : ∀ (schedule : List Nat)
    {pool : WorkerPool τ σ β}, Sound P g items pool → remaining items pool = 0 →
      number ∈ schedule → (WorkerPool.run work items pool schedule).Halted number
  | [], _, _, _, hmem => by cases hmem
  | first :: schedule, pool, h, hzero, hmem => by
    have hmove : Moves work items pool first _ := h.moves_step first
    have hnext := h.step hwork first
    by_cases hfirst : number = first
    · subst hfirst
      exact halted_run hwork schedule hnext (hmove.halted_of_remaining hzero)
    · have hzero' : remaining items (WorkerPool.step work items pool first) = 0 :=
        Nat.le_zero.1 (hzero ▸ hmove.remaining_le)
      exact halted_of_mem hwork schedule hnext hzero' ((List.mem_cons.1 hmem).resolve_left hfirst)

/-- In a round everybody has a turn, so while something remains, less does after it. -/
theorem Sound.remaining_round_lt (hwork : Steady work P g) {pool : WorkerPool τ σ β}
    (h : Sound P g items pool) (hworkers : 0 < pool.workers.length)
    (hpos : 0 < remaining items pool) :
    remaining items (WorkerPool.run work items pool (List.range pool.workers.length)) <
      remaining items pool := by
  by_cases hholding : ∃ worker ∈ pool.workers, worker.isHolding = true
  · obtain ⟨worker, hmem, hholding⟩ := hholding
    obtain ⟨number, hworker⟩ := List.getElem?_of_mem hmem
    obtain ⟨hlt, -⟩ := List.getElem?_eq_some_iff.1 hworker
    exact h.remaining_run_lt hwork hholding _ hworker (List.mem_range.2 hlt)
  · -- nobody holds an item, so there is one to take, and the first worker is ready for it
    have hnone : pool.workers.countP Worker.isHolding = 0 :=
      List.countP_eq_zero.2 fun worker hmem hholds => hholding ⟨worker, hmem, hholds⟩
    have hnext : pool.next < items.length := by
      rw [remaining] at hpos
      omega
    have hfirst := List.getElem?_eq_getElem hworkers
    have hmem := List.mem_of_getElem? hfirst
    have hready : (pool.workers[0]).phase = .ready := by
      cases hphase : (pool.workers[0]).phase with
      | ready => rfl
      | holding => exact absurd ⟨_, hmem, by simp [Worker.isHolding, hphase]⟩ hholding
      | stopped => exact absurd (h.stopped _ hmem hphase) (by omega)
    obtain ⟨count, hcount⟩ := Nat.exists_eq_succ_of_ne_zero (Nat.ne_of_gt hworkers)
    rw [hcount, Nat.succ_eq_add_one, List.range_succ_eq_map]
    exact Nat.lt_of_le_of_lt
      (remaining_run_le hwork ((List.range count).map Nat.succ) (h.step hwork 0))
      ((h.moves_step 0).remaining_lt hfirst (Or.inr ⟨hready, hnext⟩))

theorem isFinished_of_halted {pool : WorkerPool τ σ β}
    (h : ∀ number < pool.workers.length, pool.Halted number) : pool.isFinished = true := by
  rw [isFinished_iff]
  intro worker hmem
  obtain ⟨number, hworker⟩ := List.getElem?_of_mem hmem
  obtain ⟨hlt, -⟩ := List.getElem?_eq_some_iff.1 hworker
  exact h number hlt worker hworker

theorem turns_succ (count rounds : Nat) :
    turns count (rounds + 1) = List.range count ++ turns count rounds := rfl

theorem run_append (work : α → StateT τ (StateM σ) β) (items : List α) (pool : WorkerPool τ σ β)
    (schedule rest : List Nat) :
    run work items pool (schedule ++ rest) = run work items (run work items pool schedule) rest :=
  List.foldl_append

/-- **Taking turns comes to an end:** one round more than steps remain is enough. -/
theorem Sound.finished_turns (hwork : Steady work P g) {count : Nat} (hpos : 0 < count) :
    ∀ (rounds : Nat) {pool : WorkerPool τ σ β}, Sound P g items pool →
      pool.workers.length = count → remaining items pool ≤ rounds →
        (WorkerPool.run work items pool (turns count (rounds + 1))).isFinished = true
  | 0, pool, h, hcount, hle => by
    have hzero : remaining items pool = 0 := Nat.le_zero.1 hle
    refine isFinished_of_halted fun number hnumber => ?_
    rw [h.run_length hwork, hcount] at hnumber
    refine h.halted_of_mem hwork _ hzero ?_
    rw [turns_succ]
    exact List.mem_append_left _ (List.mem_range.2 hnumber)
  | rounds + 1, pool, h, hcount, hle => by
    rw [turns_succ, run_append]
    refine finished_turns hwork hpos rounds (h.run hwork _) ?_ ?_
    · rw [h.run_length hwork, hcount]
    · by_cases hzero : remaining items pool = 0
      · have := h.remaining_run_le hwork (List.range count)
        omega
      · have := h.remaining_round_lt hwork (hcount ▸ hpos) (Nat.pos_of_ne_zero hzero)
        rw [hcount] at this
        omega

theorem length_start (count : Nat) (init : τ) (shared : σ) :
    (start count init shared : WorkerPool τ σ β).workers.length = count :=
  List.length_replicate

theorem remaining_start (count : Nat) (init : τ) (shared : σ) :
    remaining items (start count init shared : WorkerPool τ σ β) = 2 * items.length := by
  have hnone : (List.replicate count ({ state := init } : Worker τ β)).countP Worker.isHolding = 0 :=
    List.countP_eq_zero.2 fun worker hmem => by
      rw [List.eq_of_mem_replicate hmem]
      exact Bool.false_ne_true
  simp only [remaining, start, hnone]
  omega

theorem workerCount_pos (wanted count : Nat) : 0 < workerCount wanted count := by
  unfold workerCount
  omega

/-- **The results of a whole run** are those of a plain walk over the items. -/
theorem mapItems_spec (hwork : Steady work P g) (init : τ) (wanted : Nat) {shared : σ}
    (h : P shared) :
    ((mapItems init work wanted items).run shared).1 = items.map g ∧
      P ((mapItems init work wanted items).run shared).2 := by
  have hcount := workerCount_pos wanted items.length
  have hstart : Sound P g items (start _ init shared : WorkerPool τ σ β) :=
    sound_start (workerCount wanted items.length) init h
  have hsound := hstart.run hwork (turns (workerCount wanted items.length) (2 * items.length + 1))
  refine ⟨hsound.results_of_finished ?_ ?_, hsound.shared⟩
  · refine hstart.finished_turns hwork hcount _ (length_start _ _ _) ?_
    exact Nat.le_of_eq (remaining_start _ _ _)
  · rw [← List.length_pos_iff, hstart.run_length hwork, length_start]
    exact hcount

end WorkerPool

end LayerLint
