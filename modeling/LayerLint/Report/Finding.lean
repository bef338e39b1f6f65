import LayerLint.Analysis

/-!
# Findings as reports show them

A report names files relative to the project root. What one diagnostic says is the same in every
format.
-/

set_option autoImplicit false

namespace LayerLint

/-- A diagnostic as a report shows it. -/
structure Finding where
  file : String
  rule : String
  kind : DiagnosticKind
  message : String
  line : Nat
  column : Nat
deriving DecidableEq, Inhabited

namespace Report

/-- The part of a file name below a root; the whole name of a file that is somewhere else. -/
def relativeFile (root : Path) (file : String) : String :=
  match Text.dropLead? (Text.trimEnd (· == '/') root.display) file with
  | some rest => if Text.startsWith "/" rest then Text.trimStart (· == '/') rest else file
  | none => file

end Report

namespace Finding

/-- What a diagnostic says, with a name for its file. -/
def ofDiagnostic (d : Diagnostic) (file : String) : Finding :=
  { file, rule := d.ruleId, kind := d.kind, message := d.message,
    line := d.location.line, column := d.location.column }

/-- The findings of an analysis, with the files relative to a root. -/
def ofReport (root : Path) (report : AnalysisReport) : List Finding :=
  report.diagnostics.map fun d => ofDiagnostic d (Report.relativeFile root d.location.file)

end Finding

end LayerLint
