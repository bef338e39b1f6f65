/-!
# Worker pools

Several workers share a list of items and a counter. A worker takes the next index from the counter;
past the end it stops, otherwise it works on the item, keeps the result together with the index, and
comes back. Which worker makes the next step is for the schedule to say, which is a list of worker
numbers. At the end the results are put into the order of the items.

Work may read and change two states: one that its worker built for itself at the start, and one that
all workers share.

* `WorkerPool.step`: one step of one worker.
* `WorkerPool.run`: the steps of a schedule.
* `WorkerPool.mapItems`: the results of a whole run in which the workers take turns.
-/

set_option autoImplicit false

namespace LayerLint

universe u

/-- What a worker is about to do. -/
inductive WorkerPhase where
  /-- It will take the next index. -/
  | ready
  /-- It has taken an index and will work on that item. -/
  | holding (index : Nat)
  /-- There was no item left. -/
  | stopped
deriving DecidableEq, Inhabited

/-- A worker with a state of its own and the results it has so far, each with the index of its
item. -/
structure Worker (τ β : Type u) where
  phase : WorkerPhase := .ready
  state : τ
  results : List (Nat × β) := []

/-- The workers, the next free index, and the state that they share. -/
structure WorkerPool (τ σ β : Type u) where
  next : Nat := 0
  workers : List (Worker τ β)
  shared : σ

namespace WorkerPool

variable {τ σ α β : Type u}

/-- How many workers there are for some number of items: as many as wanted, but at least one and no
more than there are items. -/
def workerCount (wanted items : Nat) : Nat :=
  max 1 (min wanted (max 1 items))

/-- A pool that has not begun. -/
def start (count : Nat) (init : τ) (shared : σ) : WorkerPool τ σ β :=
  { workers := List.replicate count { state := init }, shared }

/-- One step of the worker with a number. A number without worker, and a worker that has stopped, do
nothing. -/
def step (work : α → StateT τ (StateM σ) β) (items : List α) (pool : WorkerPool τ σ β)
    (number : Nat) : WorkerPool τ σ β :=
  match pool.workers[number]? with
  | none => pool
  | some worker =>
    match worker.phase with
    | .stopped => pool
    | .ready =>
      let phase := if pool.next < items.length then .holding pool.next else .stopped
      { pool with
        next := pool.next + 1
        workers := pool.workers.set number { worker with phase } }
    | .holding index =>
      match items[index]? with
      | none => { pool with workers := pool.workers.set number { worker with phase := .ready } }
      | some item =>
        let ((result, state), shared) := ((work item).run worker.state).run pool.shared
        { pool with
          shared
          workers := pool.workers.set number
            { phase := .ready, state, results := worker.results ++ [(index, result)] } }

/-- The steps of a schedule, one after another. -/
def run (work : α → StateT τ (StateM σ) β) (items : List α) (pool : WorkerPool τ σ β)
    (schedule : List Nat) : WorkerPool τ σ β :=
  schedule.foldl (step work items) pool

/-- All workers have stopped. -/
def isFinished (pool : WorkerPool τ σ β) : Bool :=
  pool.workers.all fun worker => worker.phase == .stopped

/-- The results of all workers, in the order of the items. -/
def results (pool : WorkerPool τ σ β) : List β :=
  ((pool.workers.flatMap Worker.results).mergeSort fun a b => a.1 ≤ b.1).map Prod.snd

/-- The schedule in which all workers take turns, for some number of rounds. -/
def turns (count rounds : Nat) : List Nat :=
  (List.replicate rounds (List.range count)).flatten

/-- Works on all items with some number of workers and gives the results in the order of the items.
An item takes a worker two steps, and the step at which it finds no further item is its last. -/
def mapItems (init : τ) (work : α → StateT τ (StateM σ) β) (wanted : Nat) (items : List α) :
    StateM σ (List β) := do
  let count := workerCount wanted items.length
  let pool := run work items (start count init (← get)) (turns count (2 * items.length + 1))
  set pool.shared
  return pool.results

end WorkerPool

end LayerLint
