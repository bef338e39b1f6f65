import LayerLint.CommandLine
import LayerLint.Proofs.Sarif
import LayerLint.Proofs.Scheduling

/-!
# The verdict of a check

A check may be shown in three formats and at three levels of detail, and done by any number of
workers.  Its exit code is about none of this.

* `Config.Usable` — a configuration file that holds text which is a configuration;
* `Check.governing?` — the configuration file that a check is under, if there is one;
* `Check.settle_eq` — a check is settled by the file that it is under, or by the defaults;
* `Check.perform_of_missing`, `Check.perform_of_unsettled`, `Check.perform_of_settled` — what a check
  gives, without workers;
* `Report.Json.findings?_document` — every finding is read back from a JSON report;
* `Check.verdict_independent` — **one exit code for all ways to run a check, which says what the
  analysis says, and one list of findings in both machine formats.**
-/

set_option autoImplicit false

namespace LayerLint

/-! ## Configuration files -/

namespace FileSystem

theorem exists?_eq_false_iff (fs : FileSystem) (p : Path) :
    fs.exists? p = false ↔ ∀ entry, fs.find p ≠ .ok entry := by
  rw [exists?]
  cases fs.find p with
  | error cause => simp [Except.isOk, Except.toBool]
  | ok entry => simp [Except.isOk, Except.toBool]

theorem exists?_of_isFile {fs : FileSystem} {p : Path} (h : fs.isFile p = true) :
    fs.exists? p = true := by
  unfold isFile at h
  split at h
  · rename_i hfind
    rw [exists?, hfind]
    rfl
  · cases h

theorem readText_eq_ok_iff (fs : FileSystem) (p : Path) (text : String) :
    fs.readText p = .ok text ↔ fs.find p = .ok (.file (.text text)) := by
  rw [readText]
  rcases fs.find p with cause | (_ | _) | _ <;> simp

end FileSystem

namespace Config

/-- The file holds text, and the text is a configuration. -/
def Usable (fs : FileSystem) (path : Path) : Prop :=
  ∃ text config, fs.find path = .ok (.file (.text text)) ∧ ofToml? text = some config

theorem load_eq_ok_iff (fs : FileSystem) (path : Path) (config : Config) :
    load fs path = .ok config ↔
      ∃ text, fs.find path = .ok (.file (.text text)) ∧ ofToml? text = some config := by
  simp only [← FileSystem.readText_eq_ok_iff]
  rw [load]
  cases fs.readText path with
  | error cause => simp
  | ok text =>
    cases h : ofToml? text with
    | none => simp [h]
    | some found => simp [h]

theorem usable_iff (fs : FileSystem) (path : Path) :
    Usable fs path ↔ ∃ config, load fs path = .ok config := by
  simp only [load_eq_ok_iff, Usable]
  exact exists_comm

theorem exists_load_error_iff (fs : FileSystem) (path : Path) :
    (∃ cause, load fs path = .error cause) ↔ ¬ Usable fs path := by
  rw [usable_iff]
  cases load fs path with
  | error cause => simp
  | ok config => simp

end Config

/-! ## What a check gives -/

namespace Check

/-- Where the search for the project of a target begins. -/
def searchStart (fs : FileSystem) (target : Path) : Path :=
  if fs.isDirectory target then target else target.parent?.getD fs.currentPath

/-- The configuration file that a check is under: the given one, else the nearest one from the
    target upwards, else what goes by that name in the working directory. -/
def governing? (fs : FileSystem) (target : Path) : Option Path → Option Path
  | some path => some (fs.currentPath.join path)
  | none =>
    let nearest := Config.projectRoot? fs (searchStart fs target)
    let own := fs.currentPath.join ⟨Config.fileName⟩
    (nearest.map fun root => root.join ⟨Config.fileName⟩).or (if fs.exists? own then some own else none)

/-- The directory to which the files of a check are relative: that of the given configuration file,
    else that of the nearest one, else the working directory. -/
def projectRoot (fs : FileSystem) (target : Path) : Option Path → Path
  | some path => (fs.currentPath.join path).parent?.getD fs.currentPath
  | none => (Config.projectRoot? fs (searchStart fs target)).getD fs.currentPath

/-- **A check is settled by the configuration file that it is under, or by the defaults.** -/
theorem settle_eq (fs : FileSystem) (target : Path) (explicit : Option Path) :
    settle fs target explicit =
      ((governing? fs target explicit).elim (.ok {}) (Config.load fs)).map fun config =>
        (projectRoot fs target explicit, config) := by
  cases explicit with
  | some path =>
    simp only [settle, bind_pure_comp]
    rfl
  | none =>
    have hsettle : settle fs target none =
        (Config.loadOrDefault fs (projectRoot fs target none)).map fun config =>
          (projectRoot fs target none, config) := by
      simp only [settle, bind_pure_comp, projectRoot, searchStart]
      rfl
    rw [hsettle, Config.loadOrDefault]
    cases hnearest : Config.projectRoot? fs (searchStart fs target) with
    | none =>
      have hroot : projectRoot fs target none = fs.currentPath := by simp [projectRoot, hnearest]
      simp only [hroot, governing?, hnearest, Option.map_none, Option.none_or]
      split <;> rfl
    | some root =>
      -- the nearest configuration file was found as a file, so it exists
      have hfile : fs.isFile (root.join ⟨Config.fileName⟩) = true := by
        simpa using List.find?_some hnearest
      have hroot : projectRoot fs target none = root := by simp [projectRoot, hnearest]
      simp only [hroot, governing?, hnearest, Option.map_some, Option.some_or, Option.elim_some,
        FileSystem.exists?_of_isFile hfile, if_true]

/-- The settings are those of the configuration file, or the defaults if there is none. -/
def SettledBy (fs : FileSystem) (settings : Config) : Option Path → Prop
  | none => settings = {}
  | some path => ∃ text, fs.find path = .ok (.file (.text text)) ∧ Config.ofToml? text = some settings

theorem settle_eq_ok_iff (fs : FileSystem) (target : Path) (explicit : Option Path) (root : Path)
    (settings : Config) :
    settle fs target explicit = .ok (root, settings) ↔
      root = projectRoot fs target explicit ∧
        SettledBy fs settings (governing? fs target explicit) := by
  rw [settle_eq]
  cases governing? fs target explicit with
  | none => simp [SettledBy, Except.map, eq_comm]
  | some path =>
    simp only [Option.elim_some, SettledBy, ← Config.load_eq_ok_iff]
    cases Config.load fs path with
    | error cause => simp [Except.map]
    | ok config => simp [Except.map, eq_comm]

theorem exists_settle_error_iff (fs : FileSystem) (target : Path) (explicit : Option Path) :
    (∃ cause, settle fs target explicit = .error cause) ↔
      ∃ path, governing? fs target explicit = some path ∧ ¬ Config.Usable fs path := by
  rw [settle_eq]
  cases governing? fs target explicit with
  | none => simp [Except.map]
  | some path =>
    simp only [Option.elim_some, Option.some.injEq, exists_eq_left', ← Config.exists_load_error_iff]
    cases Config.load fs path with
    | error cause => simp [Except.map]
    | ok config => simp [Except.map]

theorem discover_jobs (fs : FileSystem) (config : Config) (target : Path) (jobs : Option Nat) :
    discover fs { config with jobs } target = discover fs config target := by
  have hextension : Config.hasExtension { config with jobs } = config.hasExtension := rfl
  have hignore : Config.shouldIgnore { config with jobs } = config.shouldIgnore := rfl
  simp only [discover, hextension, hignore]

theorem analyzeTarget_jobs (fs : FileSystem) (config : Config) (root target : Path)
    (jobs : Option Nat) :
    analyzeTarget fs { config with jobs } root target = analyzeTarget fs config root target := by
  have hclasses : discoverClassPaths fs { config with jobs } root =
      discoverClassPaths fs config root := by
    simp only [discoverClassPaths, discover_jobs]
  rw [analyzeTarget, analyzeTarget, discover_jobs, hclasses, Analysis.analyzeFiles_jobs]

section

variable {fs : FileSystem} (options : CheckOptions)

theorem perform_of_missing (htarget : fs.exists? (fs.currentPath.join options.target) = false) :
    perform fs options = .error (.missingTarget options.target) := by
  simp [perform, htarget]

theorem perform_of_unsettled (htarget : fs.exists? (fs.currentPath.join options.target) = true)
    {cause : ConfigError}
    (hsettle : settle fs (fs.currentPath.join options.target) options.config = .error cause) :
    perform fs options = .error (.config cause) := by
  simp [perform, htarget, hsettle]

/-- The number of workers is part of the configuration, and not of the report. -/
theorem perform_of_settled (htarget : fs.exists? (fs.currentPath.join options.target) = true)
    {root : Path} {settings : Config}
    (hsettle : settle fs (fs.currentPath.join options.target) options.config =
      .ok (root, settings)) :
    perform fs options = .ok
      { root
        config := { settings with jobs := options.jobs.or settings.jobs }
        report := analyzeTarget fs settings root (fs.currentPath.join options.target) } := by
  simp [perform, htarget, hsettle, analyzeTarget_jobs]

/-! ## Exit codes -/

variable {options}

theorem exitCode_run_of_error (colors : Bool) {failure : Failure}
    (h : perform fs options = .error failure) : (run fs colors options).exitCode = 2 := by
  rw [run, h]
  cases hformat : options.format <;> simp [Failure.outcome, Outcome.misuse]

theorem exitCode_run_of_ok (colors : Bool) {result : Result} (h : perform fs options = .ok result) :
    (run fs colors options).exitCode = exitCode result.report := by
  rw [run, h]

theorem exitCode_ne_two (report : AnalysisReport) : exitCode report ≠ 2 := by
  rw [exitCode]
  split <;> decide

end

end Check

/-! ## Reading JSON reports -/

namespace Finding

theorem length_ofReport (root : Path) (report : AnalysisReport) :
    (ofReport root report).length = report.violationCount + report.faultCount := by
  rw [Analysis.counts_eq, ofReport, List.length_map]

theorem countP_ofReport (root : Path) (report : AnalysisReport) :
    (ofReport root report).countP (fun f => f.kind == .violation) = report.violationCount := by
  rw [ofReport, List.countP_map]
  rfl

end Finding

namespace Report.Json

open Data (Value)
open Data.Json

/-- What an issue says. -/
def finding? (issue : Value) : Option Finding := do
  return {
    file := ← (← issue.get? "file").string?
    rule := ← (← issue.get? "rule").string?
    kind := ← Diagnostic.kind? (← issue.get? "kind")
    message := ← (← issue.get? "message").string?
    line := ← Sarif.nat? (← issue.get? "line")
    column := ← Sarif.nat? (← issue.get? "column") }

/-- The findings that a report is about. -/
def findings? (report : Value) : Option (List Finding) := do
  (← (← report.get? "issues").array?).mapM finding?

/-- A number that a report gives. -/
def count? (name : String) (report : Value) : Option Nat := do
  Sarif.nat? (← report.get? name)

/-- The text is a JSON report about some findings, in their order, and its two numbers count those
    about the code and the others. -/
def Shows (text : String) (findings : List Finding) : Prop :=
  ∃ (report : Value) (violations faults : Nat),
    parse? text = some report ∧ findings? report = some findings ∧
    count? "violations" report = some violations ∧ count? "faults" report = some faults ∧
    violations = findings.countP (fun f => f.kind == .violation) ∧
    violations + faults = findings.length

theorem kind?_label (kind : DiagnosticKind) : Diagnostic.kind? (.string kind.label) = some kind := by
  cases kind <;> rfl

theorem finding?_findingValue (f : Finding) : finding? (findingValue f) = some f := by
  simp [finding?, findingValue, Value.get?, Value.string?, List.lookup_cons, kind?_label,
    Sarif.nat?_ofNat]

section

variable (root : Path) (report : AnalysisReport)

theorem findings?_document :
    findings? (document root report) = some (Finding.ofReport root report) := by
  have hissues : (document root report).get? "issues" =
      some (.array ((Finding.ofReport root report).map findingValue)) := by
    simp [document, Value.get?]
  simp only [findings?, hissues, Value.array?, Option.bind_eq_bind, Option.bind_some]
  rw [Sarif.mapM_map_eq_some finding?_findingValue, List.map_id']

theorem count?_violations : count? "violations" (document root report) = some report.violationCount := by
  simp [count?, document, Value.get?, List.lookup_cons, Sarif.nat?_ofNat]

theorem count?_faults : count? "faults" (document root report) = some report.faultCount := by
  simp [count?, document, Value.get?, List.lookup_cons, Sarif.nat?_ofNat]

/-- No number of a report keeps its text. -/
theorem exact_document : Exact (document root report) := by
  have hfinding : ∀ f, Exact (findingValue f) := by
    simp [findingValue, Value.ofNat]
  have hskipped : ∀ skipped, Exact (skippedValue root skipped) := by
    simp [skippedValue]
  simp [document, Value.ofNat, hfinding, hskipped]

theorem shows_document {text : String} (h : parse? text = some (document root report)) :
    Shows text (Finding.ofReport root report) :=
  ⟨_, _, _, h, findings?_document root report, count?_violations root report,
    count?_faults root report, (Finding.countP_ofReport root report).symm,
    (Finding.length_ofReport root report).symm⟩

end

end Report.Json

/-- The text is a SARIF report about some findings, in their order. -/
def Report.Sarif.Shows (text : String) (findings : List Finding) : Prop :=
  ∃ report : Data.Value, Data.Json.parse? text = some report ∧ findings? report = some findings

/-! ## The whole -/

namespace Check

open Data.Json (parse? parse?_pretty_line)

section

variable {fs : FileSystem} {options : CheckOptions} {result : Result}

theorem parse?_run_json (colors : Bool) (h : perform fs options = .ok result)
    (hformat : options.format = .json) :
    parse? (run fs colors options).stdout =
      some (Report.Json.document result.root result.report) := by
  rw [run, h]
  simp only [Result.render, hformat, Report.Json.render]
  exact parse?_pretty_line (Report.Json.exact_document _ _)

theorem parse?_run_sarif (colors : Bool) (h : perform fs options = .ok result)
    (hformat : options.format = .sarif) :
    parse? (run fs colors options).stdout =
      some (Report.Sarif.document (Finding.ofReport result.root result.report)
        (Engine.ofConfig result.config).rules) := by
  rw [run, h]
  simp only [Result.render, hformat, Report.Sarif.render]
  exact parse?_pretty_line (Report.Sarif.exact_document _ _)

end

/-- **The verdict of a check does not depend on how it is shown or on how many workers do it.**  All
    checks of a target under one choice of configuration have one exit code.  It is two if there is
    no target, or if the configuration file that holds cannot be read or is no configuration.
    Otherwise there is one report, and the code is one if a diagnostic of it is a finding about the
    code, and zero if all are failures of rules.  Then a JSON report and a SARIF report are about
    the same findings in the same order, and the two numbers of the JSON report count them. -/
theorem verdict_independent (fs : FileSystem) (target : Path) (config : Option Path) :
    let place := fs.currentPath.join target
    let outcome (colors : Bool) (format : ReportFormat) (verbosity : Verbosity)
        (jobs : Option Nat) : Outcome :=
      Command.run fs colors (.check { target, format, jobs, config, verbosity })
    ∃ code : Nat,
      (∀ colors format verbosity jobs, (outcome colors format verbosity jobs).exitCode = code) ∧
      (code = 2 ↔
        (∀ entry, fs.find place ≠ .ok entry) ∨
          ∃ path, governing? fs place config = some path ∧ ¬ Config.Usable fs path) ∧
      (code ≠ 2 → ∃ settings : Config,
        let root := projectRoot fs place config
        let report := analyzeTarget fs settings root place
        SettledBy fs settings (governing? fs place config) ∧
        (∀ jobs, analyzeTarget fs { settings with jobs } root place = report) ∧
        (code = 1 ↔ ∃ d ∈ report.diagnostics, d.kind = .violation) ∧
        (code = 0 ↔ ∀ d ∈ report.diagnostics, d.kind = .internalFault) ∧
        ∀ colors verbosity jobs,
          Report.Json.Shows (outcome colors .json verbosity jobs).stdout
            (Finding.ofReport root report) ∧
          Report.Sarif.Shows (outcome colors .sarif verbosity jobs).stdout
            (Finding.ofReport root report)) := by
  intro place outcome
  have hmissing := FileSystem.exists?_eq_false_iff fs place
  have hunusable := exists_settle_error_iff fs place config
  let options (format : ReportFormat) (verbosity : Verbosity) (jobs : Option Nat) : CheckOptions :=
    { target, format, jobs, config, verbosity }
  have hfail : ∀ failure : Failure, (∀ format verbosity jobs,
      perform fs (options format verbosity jobs) = .error failure) →
      ∀ colors format verbosity jobs, (outcome colors format verbosity jobs).exitCode = 2 :=
    fun _ h colors format verbosity jobs => exitCode_run_of_error colors (h format verbosity jobs)
  by_cases htarget : fs.exists? place = true
  · rcases hsettle : settle fs place config with cause | ⟨root, settings⟩
    · have hbad := hunusable.1 ⟨cause, hsettle⟩
      have hcodes := hfail (.config cause) fun format verbosity jobs =>
        perform_of_unsettled (options format verbosity jobs) htarget hsettle
      exact ⟨2, hcodes, ⟨fun _ => .inr hbad, fun _ => rfl⟩, fun hne => (hne rfl).elim⟩
    · obtain ⟨rfl, hsettings⟩ := (settle_eq_ok_iff fs place config root settings).1 hsettle
      have hperform : ∀ format verbosity jobs, perform fs (options format verbosity jobs) = _ :=
        fun format verbosity jobs =>
          perform_of_settled (options format verbosity jobs) htarget hsettle
      refine ⟨exitCode (analyzeTarget fs settings (projectRoot fs place config) place),
        fun colors format verbosity jobs =>
          exitCode_run_of_ok colors (hperform format verbosity jobs), ?_, fun _ => ⟨settings,
        hsettings, fun jobs => analyzeTarget_jobs fs settings _ _ jobs,
        Analysis.exitCode_eq_one_iff _, Analysis.exitCode_eq_zero_iff _,
        fun colors verbosity jobs => ⟨?_, ?_⟩⟩⟩
      · refine iff_of_false (exitCode_ne_two _) ?_
        rintro (hnone | hbad)
        · rw [← hmissing, htarget] at hnone
          cases hnone
        · obtain ⟨cause, hcause⟩ := hunusable.2 hbad
          rw [hsettle] at hcause
          cases hcause
      · exact Report.Json.shows_document _ _
          (parse?_run_json colors (hperform .json verbosity jobs) rfl)
      · exact ⟨_, parse?_run_sarif colors (hperform .sarif verbosity jobs) rfl,
          Report.Sarif.findings?_document _ _⟩
  · have hfalse : fs.exists? place = false := Bool.eq_false_iff.2 htarget
    have hnone := hmissing.1 hfalse
    have hcodes := hfail (.missingTarget target) fun format verbosity jobs =>
      perform_of_missing (options format verbosity jobs) hfalse
    exact ⟨2, hcodes, ⟨fun _ => .inl hnone, fun _ => rfl⟩, fun hne => (hne rfl).elim⟩

/-- A project with a configuration file that asks for no workers, and one hook without an order. -/
def hookProject : FileSystem where
  root := .directory [("m", .directory
    [(Config.fileName, .file (.text "jobs = 0\n")),
     ("src", .directory [("backend", .directory [("Hooks", .directory [("A.php", .file (.text
       "<?php class A \x7bfunction afterSave($e) \x7b\x7d\x7d"))])])])])]
  workingDirectory := ["m"]

/-- Every check of the project has the exit code for findings, and both machine formats show the
    same ones. -/
theorem verdict_independent_hook :
    let outcome (colors : Bool) (format : ReportFormat) (verbosity : Verbosity)
        (jobs : Option Nat) : Outcome :=
      Command.run hookProject colors (.check { format, jobs, verbosity })
    (∀ colors format verbosity jobs, (outcome colors format verbosity jobs).exitCode = 1) ∧
      ∃ findings : List Finding, (∃ f ∈ findings, f.kind = .violation) ∧
        ∀ colors verbosity jobs,
          Report.Json.Shows (outcome colors .json verbosity jobs).stdout findings ∧
          Report.Sarif.Shows (outcome colors .sarif verbosity jobs).stdout findings := by
  intro outcome
  have hplain : (outcome false .text .normal none).exitCode = 1 := by decide +kernel
  obtain ⟨code, hcodes, -, hreport⟩ := verdict_independent hookProject ⟨"."⟩ none
  have hcode : code = 1 := (hcodes false .text .normal none).symm.trans hplain
  subst hcode
  obtain ⟨settings, -, -, hone, -, hshows⟩ := hreport (by decide)
  obtain ⟨d, hd, hkind⟩ := hone.1 rfl
  exact ⟨hcodes, _, ⟨_, List.mem_map_of_mem hd, hkind⟩, hshows⟩

end Check

end LayerLint
