import LayerLint.Report.Plain

/-!
# Commands

What the command line may ask for, why it may be refused, and what running a command gives.
-/

set_option autoImplicit false

namespace LayerLint

/-- The format of a report. -/
inductive ReportFormat where
  | text
  | json
  | sarif
deriving DecidableEq, Inhabited

/-- The format that a word names. -/
def ReportFormat.ofString? : String → Option ReportFormat
  | "text" => some text
  | "json" => some json
  | "sarif" => some sarif
  | _ => none

/-- What a check is asked to do. -/
structure CheckOptions where
  target : Path := ⟨"."⟩
  format : ReportFormat := .text
  /-- The number of workers, in place of the configured one. -/
  jobs : Option Nat := none
  /-- The configuration file, in place of the nearest one. -/
  config : Option Path := none
  verbosity : Verbosity := .normal
deriving DecidableEq, Inhabited

/-- What the program is asked to do. -/
inductive Command where
  /-- Analyse a target and report what the rules say. -/
  | check (options : CheckOptions)
  /-- List the rules. -/
  | rules (config : Option Path)
deriving DecidableEq, Inhabited

/-- The command asks for more than the usual output. -/
def Command.isVerbose : Command → Bool
  | check options => options.verbosity == .verbose
  | rules _ => false

/-- Why a command line is no command. -/
inductive UsageError where
  /-- Help was asked for. -/
  | helpRequested
  /-- The version was asked for. -/
  | versionRequested
  /-- There is nothing to do. -/
  | nothingRequested
  /-- There is no command of that name. -/
  | unknownCommand
  /-- There is no such option, or no place for another operand. -/
  | unknownArgument
  /-- An option lacks its value, or has one that it does not know. -/
  | invalidValue
  /-- An option needs a number and has something else. -/
  | invalidNumber
  /-- A flag has a value. -/
  | unexpectedValue
  /-- Options that exclude each other are given together, or one is given twice. -/
  | conflict
deriving DecidableEq, Inhabited

/-- The texts that a command leaves, and its exit code. -/
structure Outcome where
  exitCode : Nat
  stdout : String := ""
  stderr : String := ""
deriving DecidableEq, Inhabited

namespace Outcome

/-- The exit code of a run without findings. -/
def clean : Nat := 0

/-- The exit code of a run with findings. -/
def violations : Nat := 1

/-- The exit code of a run that could not be done. -/
def misuse : Nat := 2

end Outcome

end LayerLint
