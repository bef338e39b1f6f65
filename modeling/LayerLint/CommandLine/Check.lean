import LayerLint.CommandLine.Basic
import LayerLint.Config.Load
import LayerLint.Report.Json
import LayerLint.Report.Sarif

/-!
# The check command

A check settles its configuration, analyses its target and shows the report. The exit code says
whether there are findings; failures of rules alone do not count. A check that cannot be done says
why, in the machine formats with a document that can be read.
-/

set_option autoImplicit false

namespace LayerLint

namespace Check

/-- Why a check cannot be done. -/
inductive Failure where
  | missingTarget (target : Path)
  | config (cause : ConfigError)
deriving DecidableEq, Inhabited

/-- The message of a failure. A bad configuration is told with its cause. -/
def Failure.message : Failure → String
  | missingTarget target => "target '" ++ target.text ++ "' does not exist"
  | config e => "invalid configuration: " ++ e.message ++ ": " ++ e.cause

/-- The root of the project and its configuration: those of the given configuration file, or of the
nearest one from the target upwards. -/
def settle (fs : FileSystem) (target : Path) (explicit : Option Path) :
    Except ConfigError (Path × Config) :=
  let here := fs.currentPath
  match explicit with
  | some path => do
    let path := here.join path
    let config ← Config.load fs path
    return (path.parent?.getD here, config)
  | none => do
    let start := if fs.isDirectory target then target else target.parent?.getD here
    let root := (Config.projectRoot? fs start).getD here
    let config ← Config.loadOrDefault fs root
    return (root, config)

/-- A check that has been done: the root to which its files are relative, the configuration that
held, and the report. -/
structure Result where
  root : Path
  config : Config
  report : AnalysisReport
deriving Inhabited

/-- Does a check. -/
def perform (fs : FileSystem) (options : CheckOptions) : Except Failure Result :=
  let target := fs.currentPath.join options.target
  if fs.exists? target then
    match settle fs target options.config with
    | .error cause => .error (.config cause)
    | .ok (root, config) =>
      let config := { config with jobs := options.jobs.or config.jobs }
      .ok { root, config, report := analyzeTarget fs config root target }
  else .error (.missingTarget options.target)

/-- The exit code of a report: one if there is a finding about the code. -/
def exitCode (report : AnalysisReport) : Nat :=
  if report.hasViolations then Outcome.violations else Outcome.clean

/-- The output of a check that has been done. -/
def Result.render (result : Result) (colors : Bool) (options : CheckOptions) : String :=
  match options.format with
  | .json => Report.Json.render result.root result.report ++ "\n"
  | .sarif =>
    Report.Sarif.render (Finding.ofReport result.root result.report)
      (Engine.ofConfig result.config).rules ++ "\n"
  | .text => Report.Plain.render colors result.root options.verbosity result.report

/-- The outcome of a check that cannot be done. A format without a place for errors shows an empty
document and tells the error apart. -/
def Failure.outcome (failure : Failure) (colors : Bool) (format : ReportFormat) : Outcome :=
  let line := Report.Plain.failureLine colors failure.message ++ "\n"
  match format with
  | .json => { exitCode := Outcome.misuse, stdout := Report.Json.failure failure.message ++ "\n" }
  | .sarif => { exitCode := Outcome.misuse, stdout := Report.Sarif.render [] [] ++ "\n", stderr := line }
  | .text => { exitCode := Outcome.misuse, stderr := line }

/-- Runs a check. -/
def run (fs : FileSystem) (colors : Bool) (options : CheckOptions) : Outcome :=
  match perform fs options with
  | .error failure => failure.outcome colors options.format
  | .ok result => { exitCode := exitCode result.report, stdout := result.render colors options }

end Check

end LayerLint
