import LayerLint.Data.Json.Printer
import LayerLint.Report.Finding

/-!
# JSON reports

The counts, the skipped files and the findings of an analysis as one JSON object.
-/

set_option autoImplicit false

namespace LayerLint

namespace Report.Json

open Data (Value)

/-- A finding. -/
def findingValue (f : Finding) : Value :=
  .record
    [("file", .string f.file), ("rule", .string f.rule), ("kind", .string f.kind.label),
     ("message", .string f.message), ("line", .ofNat f.line), ("column", .ofNat f.column)]

/-- A file that could not be read. -/
def skippedValue (root : Path) (skipped : SkippedFile) : Value :=
  .record
    [("file", .string (relativeFile root skipped.path.display)),
     ("reason", .string skipped.reason)]

/-- The document of an analysis. -/
def document (root : Path) (report : AnalysisReport) : Value :=
  .record
    [("checked", .ofNat report.checked),
     ("violations", .ofNat report.violationCount),
     ("faults", .ofNat report.faultCount),
     ("skipped", .array (report.skipped.map (skippedValue root))),
     ("issues", .array ((Finding.ofReport root report).map findingValue))]

/-- The text of the document. -/
def render (root : Path) (report : AnalysisReport) : String :=
  Data.Json.pretty (document root report)

/-- The document that stands for a failure. -/
def failure (text : String) : String :=
  Data.Json.compact (.record [("error", .string text)])

end Report.Json

end LayerLint
