import LayerLint.Report.Finding
import LayerLint.Report.Paint

/-!
# Plain text reports

The report of an analysis for people: the findings file by file, then what was skipped, then a
summary. Quiet reports hold the findings only; verbose ones begin with a list of the files.
-/

set_option autoImplicit false

namespace LayerLint

/-- How much a text report says. -/
inductive Verbosity where
  | quiet
  | normal
  | verbose
deriving DecidableEq, Inhabited

namespace Report.Plain

/-- Lines as a text; every line is ended. -/
def ofLines (lines : List String) : String :=
  String.join (lines.map (· ++ "\n"))

/-- The line of a diagnostic. -/
def diagnosticLine (colors : Bool) (d : Diagnostic) : String :=
  let place := toString d.location.line ++ ":" ++ toString d.location.column
  let shown := Paint.dimmed.apply colors place
  match d.kind with
  | .violation =>
    "   " ++ Paint.red.apply colors "❌" ++ " [" ++ Paint.yellow.apply colors d.ruleId ++ " " ++ shown
      ++ "]: " ++ d.message
  | .internalFault =>
    "   " ++ Paint.blue.apply colors "⚙️" ++ " [" ++ Paint.dimmed.apply colors d.ruleId ++ " " ++ shown
      ++ "]: " ++ Paint.dimmed.apply colors d.message

/-- The lines of a file; none if nothing is said about it. -/
def fileLines (colors : Bool) (root : Path) (file : FileReport) : List String :=
  match file.diagnostics with
  | [] => []
  | first :: _ =>
    ["", "📄 " ++ Paint.boldCyan.apply colors (relativeFile root first.location.file)]
      ++ file.diagnostics.map (diagnosticLine colors)

/-- The list of the analysed files. -/
def overview (colors : Bool) (root : Path) (report : AnalysisReport) : List String :=
  ["", Paint.cyan.apply colors "⚡" ++ " " ++ toString report.checked ++ " file(s) analysed:"]
    ++ report.files.map fun file => "   " ++ relativeFile root file.path.display

/-- The line of a file that could not be read. -/
def skippedLine (colors : Bool) (skipped : SkippedFile) : String :=
  Paint.yellow.apply colors "⚠️" ++ " skipped " ++ skipped.path.text ++ ": " ++ skipped.reason

/-- The lines that sum a report up. -/
def summary (colors : Bool) (report : AnalysisReport) : List String :=
  if report.violationCount == 0 && report.faultCount == 0 then
    ["", "✅ No violations in " ++ toString report.checked ++ " file(s)."]
  else
    ["", "🚩 " ++ Paint.boldRed.apply colors (toString report.violationCount) ++ " violation(s) in "
      ++ toString report.checked ++ " file(s)  "
      ++ Paint.yellow.apply colors (toString report.faultCount) ++ " internal fault(s)"]

/-- The text of a report. -/
def render (colors : Bool) (root : Path) (verbosity : Verbosity) (report : AnalysisReport) :
    String :=
  let start := if verbosity == .verbose then overview colors root report else []
  let finish :=
    if verbosity == .quiet then []
    else report.skipped.map (skippedLine colors) ++ summary colors report
  ofLines (start ++ report.files.flatMap (fileLines colors root) ++ finish)

/-- The line that names a failure. -/
def failureLine (colors : Bool) (message : String) : String :=
  Paint.boldRed.apply colors "error:" ++ " " ++ message

end Report.Plain

end LayerLint
