import LayerLint.Data.Value

/-!
# Diagnostics

What a rule says about a place in a file.
-/

set_option autoImplicit false

namespace LayerLint

/-- A place in a file. Lines and columns start at one; columns count bytes. -/
structure Location where
  file : String
  line : Nat
  column : Nat
deriving DecidableEq, Inhabited

/-- A finding about the code, or a failure of a rule. -/
inductive DiagnosticKind where
  | violation
  | internalFault
deriving DecidableEq, Inhabited

/-- How data formats write the kind. -/
def DiagnosticKind.label : DiagnosticKind → String
  | violation => "violation"
  | internalFault => "internal_fault"

/-- What one rule says about one place. -/
structure Diagnostic where
  ruleId : String
  message : String
  location : Location
  kind : DiagnosticKind
deriving DecidableEq, Inhabited

namespace Diagnostic

open Data (Value)

/-- The diagnostic is a finding about the code. -/
def isViolation (d : Diagnostic) : Bool :=
  d.kind == .violation

/-- A diagnostic as a data value. -/
def toValue (d : Diagnostic) : Value :=
  .record
    [("rule_id", .string d.ruleId), ("message", .string d.message),
     ("location", .record
       [("file", .string d.location.file), ("line", .ofNat d.location.line),
        ("column", .ofNat d.location.column)]),
     ("kind", .string d.kind.label)]

/-- A required member. -/
def member? {α : Type} (members : List (String × Value)) (name : String)
    (decode : Value → Option α) : Option α :=
  (members.reverse.lookup name).bind decode

/-- Decodes a place; every part is required. -/
def location? (v : Value) : Option Location := do
  let members ← v.fields? ["file", "line", "column"]
  let file ← member? members "file" Value.string?
  let line ← member? members "line" Value.count?
  let column ← member? members "column" Value.count?
  return { file, line, column }

/-- Decodes a kind. -/
def kind? (v : Value) : Option DiagnosticKind := do
  let label ← v.choice?
  [DiagnosticKind.violation, .internalFault].find? fun kind => kind.label == label

/-- Decodes a diagnostic; every part is required. -/
def ofValue? (v : Value) : Option Diagnostic := do
  let members ← v.fields? ["rule_id", "message", "location", "kind"]
  let ruleId ← member? members "rule_id" Value.string?
  let message ← member? members "message" Value.string?
  let location ← member? members "location" location?
  let kind ← member? members "kind" kind?
  return { ruleId, message, location, kind }

end Diagnostic

end LayerLint
