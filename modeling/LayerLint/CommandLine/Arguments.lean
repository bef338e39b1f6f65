import LayerLint.CommandLine.Basic

/-!
# Reading the command line

The first word names a command, the others are options and operands of that command. A long option
may have its value after an equals sign, a short one directly behind its letter; otherwise the value
is the next word. Flags may be written together behind one hyphen. After two hyphens every word is an
operand.

The value of an option is judged only when the next option or operand begins, or at the end. So an
unknown option is reported before a bad value in front of it, and a known one after it.
-/

set_option autoImplicit false

namespace LayerLint

namespace Arguments

/-! ## Options -/

/-- An option that takes a value, or the operand. -/
inductive Slot where
  | target
  | format
  | jobs
  | config
deriving DecidableEq, Inhabited

/-- An option of a command. -/
inductive Switch where
  | value (slot : Slot)
  | quiet
  | verbose
  | help
deriving DecidableEq, Inhabited

/-- The options that a command knows, and whether it takes an operand. -/
structure Dialect where
  long : List (String × Switch)
  short : List (Char × Switch)
  takesTarget : Bool
deriving DecidableEq, Inhabited

/-- The options of a check. -/
def checkDialect : Dialect where
  long :=
    [("format", .value .format), ("jobs", .value .jobs), ("config", .value .config),
     ("quiet", .quiet), ("verbose", .verbose), ("help", .help)]
  short := [('j', .value .jobs), ('q', .quiet), ('v', .verbose), ('h', .help)]
  takesTarget := true

/-- The options of the rule list. -/
def rulesDialect : Dialect where
  long := [("config", .value .config), ("help", .help)]
  short := [('h', .help)]
  takesTarget := false

/-! ## Values -/

/-- What has been given so far. -/
structure Given where
  target : Option Path := none
  format : Option ReportFormat := none
  jobs : Option Nat := none
  config : Option Path := none
  quiet : Bool := false
  verbose : Bool := false
deriving DecidableEq, Inhabited

/-- A number that fits a machine word of 64 bits, possibly after a plus sign. -/
def number? (s : String) : Option Nat :=
  let digits := ((Text.dropLead? "+" s).getD s).toList
  if digits.isEmpty || !digits.all Char.isDigit then none
  else
    let n := digits.foldl (fun n c => 10 * n + (c.toNat - '0'.toNat)) 0
    if n < Data.Value.wordSize then some n else none

/-- A path, which is not empty. -/
def path? (s : String) : Option Path :=
  if s == "" then none else some ⟨s⟩

/-- Fills a slot that is still free with a value that can be read. -/
def fill {α : Type} (old new : Option α) (unreadable : UsageError) :
    Except UsageError (Option α) :=
  match old, new with
  | some _, _ => .error .conflict
  | none, none => .error unreadable
  | none, some v => .ok (some v)

/-- Takes a value for a slot. -/
def Given.take (given : Given) (slot : Slot) (value : String) : Except UsageError Given :=
  match slot with
  | .target => do
    let target ← fill given.target (path? value) .invalidValue
    return { given with target }
  | .format => do
    let format ← fill given.format (ReportFormat.ofString? value) .invalidValue
    return { given with format }
  | .jobs => do
    let jobs ← fill given.jobs (number? value) .invalidNumber
    return { given with jobs }
  | .config => do
    let config ← fill given.config (path? value) .invalidValue
    return { given with config }

/-! ## Words -/

/-- A slot whose value has not been judged. -/
structure Pending where
  slot : Slot
  value : Option String := none
deriving DecidableEq, Inhabited

/-- The state between two words. -/
structure Reading where
  given : Given := {}
  pending : Option Pending := none
  /-- There was an operand. -/
  hasTarget : Bool := false
  /-- Every further word is an operand. -/
  operandsOnly : Bool := false
deriving DecidableEq, Inhabited

namespace Reading

/-- Judges the pending value. An option without value is an error. -/
def settle (reading : Reading) : Except UsageError Reading :=
  match reading.pending with
  | none => .ok reading
  | some { value := none, .. } => .error .invalidValue
  | some { slot, value := some value } => do
    let given ← reading.given.take slot value
    return { reading with given, pending := none }

/-- Sets a flag that is not set yet. -/
def setFlag (reading : Reading) (isSet : Given → Bool) (set : Given → Given) :
    Except UsageError Reading := do
  let reading ← reading.settle
  if isSet reading.given then throw .conflict
  return { reading with given := set reading.given }

/-- An option, possibly with a value behind it. -/
def option (reading : Reading) (switch : Switch) (attached : Option String) :
    Except UsageError Reading := do
  match switch with
  | .value slot =>
    let reading ← reading.settle
    match attached with
    | some value => return { reading with given := ← reading.given.take slot value }
    | none => return { reading with pending := some { slot } }
  | .quiet => reading.setFlag Given.quiet fun given => { given with quiet := true }
  | .verbose => reading.setFlag Given.verbose fun given => { given with verbose := true }
  | .help =>
    let _ ← reading.settle
    throw .helpRequested

/-- The option takes a value. -/
def takesValue : Switch → Bool
  | .value _ => true
  | _ => false

/-- A long option without its hyphens. -/
def longWord (dialect : Dialect) (reading : Reading) (word : String) : Except UsageError Reading :=
  let (name, attached) :=
    match Text.cutFirst? "=" word with
    | some (name, value) => (name, some value)
    | none => (word, none)
  match dialect.long.lookup name with
  | none => .error .unknownArgument
  | some switch =>
    if attached.isSome && !takesValue switch then .error .unexpectedValue
    else reading.option switch attached

/-- The value behind the letter of a short option, if anything follows it. -/
def attachedValue : List Char → Option String
  | [] => none
  | '=' :: rest => some (String.ofList rest)
  | rest => some (String.ofList rest)

/-- Short options written together, without their hyphen. -/
def shortWord (dialect : Dialect) : Reading → List Char → Except UsageError Reading
  | reading, [] => .ok reading
  | reading, letter :: rest =>
    match dialect.short.lookup letter with
    | none => .error .unknownArgument
    | some switch =>
      if takesValue switch then reading.option switch (attachedValue rest)
      else do
        let reading ← reading.option switch none
        shortWord dialect reading rest

/-- An operand. -/
def operand (dialect : Dialect) (reading : Reading) (word : String) : Except UsageError Reading :=
  if dialect.takesTarget && !reading.hasTarget then do
    let reading ← reading.settle
    return { reading with pending := some { slot := .target, value := some word }, hasTarget := true }
  else .error .unknownArgument

/-- A word that is no option: the value that the last option waits for, or an operand. -/
def plainWord (dialect : Dialect) (reading : Reading) (word : String) : Except UsageError Reading :=
  match reading.pending with
  | some { slot, value := none } =>
    .ok { reading with pending := some { slot, value := some word } }
  | _ => reading.operand dialect word

/-- One word. -/
def word (dialect : Dialect) (reading : Reading) (word : String) : Except UsageError Reading :=
  if reading.operandsOnly then reading.operand dialect word
  else
    match word.toList with
    | ['-', '-'] => .ok { reading with operandsOnly := true }
    | '-' :: '-' :: rest => reading.longWord dialect (String.ofList rest)
    | '-' :: letter :: rest => reading.shortWord dialect (letter :: rest)
    | _ => reading.plainWord dialect word

end Reading

/-- Reads the words after the name of a command. -/
def read (dialect : Dialect) (words : List String) : Except UsageError Given := do
  let reading ← words.foldlM (Reading.word dialect) {}
  let reading ← reading.settle
  if reading.given.quiet && reading.given.verbose then throw .conflict
  return reading.given

/-! ## Commands -/

/-- How much a report is to say. -/
def Given.verbosity (given : Given) : Verbosity :=
  if given.quiet then .quiet else if given.verbose then .verbose else .normal

/-- The options of a check with defaults for what is not given. -/
def Given.toCheck (given : Given) : CheckOptions where
  target := given.target.getD ⟨"."⟩
  format := given.format.getD .text
  jobs := given.jobs
  config := given.config
  verbosity := given.verbosity

/-- The words that name commands. -/
def commandNames : List String :=
  ["check", "rules", "help"]

/-- The answer to a request for help: the word that follows, if any, has to name a command, and
nothing may follow that one. -/
def help : List String → UsageError
  | [] => .helpRequested
  | [name] => if commandNames.contains name then .helpRequested else .unknownCommand
  | _ => .unknownCommand

/-- An option in place of a command, by its long name or its letter. -/
def standalone (isHelp isVersion : Bool) : UsageError :=
  if isHelp then .helpRequested else if isVersion then .versionRequested else .unknownArgument

/-- A long option, without its hyphens, in place of a command. -/
def standaloneLong (word : String) : UsageError :=
  match Text.cutFirst? "=" word with
  | some (name, _) =>
    if name == "help" || name == "version" then .unexpectedValue else .unknownArgument
  | none => standalone (word == "help") (word == "version")

/-- Words after two hyphens in place of a command. -/
def afterHyphens : List String → UsageError
  | [] => .nothingRequested
  | word :: _ => if commandNames.contains word then .unknownArgument else .unknownCommand

end Arguments

open Arguments

/-- Reads a command line, without the name of the program. -/
def Command.parse (words : List String) : Except UsageError Command :=
  match words with
  | [] => .error .nothingRequested
  | "check" :: rest => (read checkDialect rest).map fun given => .check given.toCheck
  | "rules" :: rest => (read rulesDialect rest).map fun given => .rules given.config
  | "help" :: rest => .error (help rest)
  | "--" :: rest => .error (afterHyphens rest)
  | word :: _ =>
    match word.toList with
    | '-' :: '-' :: rest => .error (standaloneLong (String.ofList rest))
    | '-' :: letter :: _ => .error (standalone (letter == 'h') (letter == 'V'))
    | _ => .error .unknownCommand

end LayerLint
