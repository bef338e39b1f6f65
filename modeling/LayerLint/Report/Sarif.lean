import LayerLint.Data.Json.Printer
import LayerLint.Report.Finding

/-!
# SARIF reports

Findings in the Static Analysis Results Interchange Format, version 2.1.0. The members of every
object are in the order of their names.
-/

set_option autoImplicit false

namespace LayerLint

namespace Report.Sarif

open Data (Value)

/-- The schema that documents name. -/
def schema : String :=
  "https://raw.githubusercontent.com/oasis-tcs/sarif-spec/master/Schemata/sarif-schema-2.1.0.json"

/-- The version of the format. -/
def formatVersion : String := "2.1.0"

/-- The name of the tool in documents. -/
def toolName : String := "espolint"

/-- The version of the tool in documents. -/
def toolVersion : String := "0.4.0"

/-- Findings about the code are errors, failures of rules are notes. -/
def level : DiagnosticKind → String
  | .violation => "error"
  | .internalFault => "note"

/-- The rules that findings name, each once, in the order in which they first occur. -/
def namedRules (findings : List Finding) : List String :=
  findings.foldl (fun seen f => if seen.contains f.rule then seen else seen ++ [f.rule]) []

/-- The description of a rule: that of the last rule with the identifier, or the identifier. -/
def describe (rules : List Rule) (id : String) : String :=
  ((rules.reverse.find? fun rule => rule.id == id).map Rule.description).getD id

/-- A text as a message. -/
def message (text : String) : Value :=
  .record [("text", .string text)]

/-- A rule in the list of the tool. -/
def ruleValue (rules : List Rule) (id : String) : Value :=
  .record [("id", .string id), ("shortDescription", message (describe rules id))]

/-- The place of a finding. -/
def locationValue (f : Finding) : Value :=
  .record [("physicalLocation", .record
    [("artifactLocation", .record [("uri", .string f.file), ("uriBaseId", .string "%SRCROOT%")]),
     ("region", .record [("startColumn", .ofNat f.column), ("startLine", .ofNat f.line)])])]

/-- A finding as a result. -/
def resultValue (f : Finding) : Value :=
  .record
    [("level", .string (level f.kind)), ("locations", .array [locationValue f]),
     ("message", message f.message), ("ruleId", .string f.rule)]

/-- The tool with the rules that findings name. -/
def toolValue (findings : List Finding) (rules : List Rule) : Value :=
  .record [("driver", .record
    [("name", .string toolName),
     ("rules", .array ((namedRules findings).map (ruleValue rules))),
     ("version", .string toolVersion)])]

/-- The document of findings. Descriptions come from the given rules. -/
def document (findings : List Finding) (rules : List Rule) : Value :=
  .record
    [("$schema", .string schema),
     ("runs", .array [.record
       [("results", .array (findings.map resultValue)), ("tool", toolValue findings rules)]]),
     ("version", .string formatVersion)]

/-- The text of the document. -/
def render (findings : List Finding) (rules : List Rule) : String :=
  Data.Json.pretty (document findings rules)

end Report.Sarif

end LayerLint
