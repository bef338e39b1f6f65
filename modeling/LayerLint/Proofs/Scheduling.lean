import LayerLint.Proofs.Analysis
import LayerLint.Proofs.RuleView

/-!
# The number of workers does not show

* `analyzeFiles_jobs` — no rule sees the number of workers, so an analysis gives the same report for
  every number;
* `schedule_independence` — together with what every schedule of a pool gives.
-/

set_option autoImplicit false

namespace LayerLint

namespace Analysis

theorem reportAlone_jobs (fs : FileSystem) (config : Config) (classes : ClassIndex)
    (file : SourceFile) (jobs : Option Nat) :
    reportAlone fs { config with jobs } classes file = reportAlone fs config classes file := by
  have hrules : ∀ rule ∈ defaultRules.filter (fun rule => config.rules.isEnabled rule.id),
      rule.Insulated := fun rule hrule => insulated_of_mem rule (List.mem_filter.1 hrule).1
  unfold reportAlone Engine.ofConfig
  rw [Engine.run_visit, Engine.run_visit]
  exact congrArg (FileReport.mk file.path)
    (Engine.contributions_among hrules _ (Context.ofFile file classes config fs)
      { config with jobs } fun _ _ => rfl)

/-- **An analysis gives the same report for every number of workers.** -/
theorem analyzeFiles_jobs (fs : FileSystem) (config : Config) (sources classSources : List Path)
    (jobs : Option Nat) :
    analyzeFiles fs { config with jobs } sources classSources =
      analyzeFiles fs config sources classSources := by
  have hreport : ∀ classes, reportAlone fs { config with jobs } classes =
      reportAlone fs config classes :=
    fun classes => funext fun file => reportAlone_jobs fs config classes file jobs
  rw [analyzeFiles_eq, analyzeFiles_eq, hreport]
  rfl

end Analysis

namespace WorkerPool

universe u

variable {τ σ α β : Type u}

/-- **No schedule shows in the results.**  For every list of items, every wanted number of workers
    and every order of their steps after which all have stopped, each index has been worked on once,
    by one worker, and the results are those of the items in their order; so any number of workers
    that take turns gives them as well.  And an analysis gives one report for all numbers of
    workers. -/
theorem schedule_independence {work : α → StateT τ (StateM σ) β} {P : σ → Prop} {g : α → β}
    (hwork : Steady work P g) (init : τ) {shared : σ} (hshared : P shared) (items : List α)
    (wanted : Nat) (schedule : List Nat)
    (hfinished : (run work items (start (workerCount wanted items.length) init shared)
      schedule).isFinished = true) :
    let pool := run work items (start (workerCount wanted items.length) init shared) schedule
    pool.workers.length = max 1 (min wanted (max 1 items.length)) ∧
    (∀ index < items.length, ∃ owner < pool.workers.length, ∀ number worker,
      pool.workers[number]? = some worker →
        (worker.results.map Prod.fst).count index = if number = owner then 1 else 0) ∧
    (∀ worker ∈ pool.workers, ∀ e ∈ worker.results, e.1 < items.length) ∧
    pool.results = items.map g ∧
    (∀ jobs, ((mapItems init work jobs items).run shared).1 = items.map g) ∧
    ∀ (fs : FileSystem) (config : Config) (sources classSources : List Path) (a b : Option Nat),
      analyzeFiles fs { config with jobs := a } sources classSources =
        analyzeFiles fs { config with jobs := b } sources classSources := by
  intro pool
  have hstart : Sound P g items (start _ init shared : WorkerPool τ σ β) :=
    sound_start (workerCount wanted items.length) init hshared
  have hsound : Sound P g items pool := hstart.run hwork schedule
  have hlength : pool.workers.length = workerCount wanted items.length :=
    (hstart.run_length hwork schedule).trans (length_start _ _ _)
  have hworkers : pool.workers ≠ [] := by
    rw [← List.length_pos_iff, hlength]
    exact workerCount_pos _ _
  refine ⟨hlength, fun index hindex => hsound.owner_of_finished hfinished hworkers hindex, ?_,
    hsound.results_of_finished hfinished hworkers,
    fun jobs => (mapItems_spec hwork init jobs hshared).1, fun fs config sources classSources a b => ?_⟩
  · intro worker hworker e he
    obtain ⟨item, hitem, -⟩ := Option.map_eq_some_iff.1 (hsound.right worker hworker e he)
    exact (List.getElem?_eq_some_iff.1 hitem).1
  · rw [Analysis.analyzeFiles_jobs fs config sources classSources a,
      Analysis.analyzeFiles_jobs fs config sources classSources b]

/-- Two workers, of whom the second finishes two of three items while the first holds one. -/
theorem schedule_independence_overtaking :
    let work (n : Nat) : StateT Nat (StateM Unit) Nat := do
      modify (· + 1)
      return n * n
    let pool := run work [3, 1, 2] (start (workerCount 2 3) 0 ()) [0, 1, 1, 1, 1, 0, 0, 1]
    pool.isFinished = true ∧ (pool.workers.map fun w => w.results.map Prod.fst) = [[0], [1, 2]] ∧
      pool.results = [9, 1, 4] := by
  intro work pool
  have hwork : Steady work (fun _ => True) (fun n => n * n) := fun _ _ _ _ => ⟨rfl, trivial⟩
  have hfinished : pool.isFinished = true := by decide
  refine ⟨hfinished, by decide, ?_⟩
  exact (schedule_independence hwork 0 trivial [3, 1, 2] 2 [0, 1, 1, 1, 1, 0, 0, 1]
    hfinished).2.2.2.1

end WorkerPool

end LayerLint
