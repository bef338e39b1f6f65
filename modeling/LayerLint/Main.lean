import LayerLint.CommandLine

/-!
# The program

The words of the command line say what to do. The files to look at come on standard input, one path
to a line, the way a directory listing prints them; their contents are read from disk. Everything
else happens on that snapshot.
-/

set_option autoImplicit false

namespace LayerLint.Main

/-- The answer to a command line that is no command. -/
def usageText : UsageError → String
  | .versionRequested => Report.Sarif.toolName ++ " " ++ Report.Sarif.toolVersion
  | _ =>
    "Usage: " ++ Report.Sarif.toolName ++ " check [TARGET] [--format text|json|sarif] [-j N]"
      ++ " [--config FILE] [-q | -v]\n       " ++ Report.Sarif.toolName
      ++ " rules [--config FILE]\nThe files to look at are read from standard input, one to a line."

/-- Asking for help or for the version is no mistake. -/
def usageCode : UsageError → UInt32
  | .helpRequested => 0
  | .versionRequested => 0
  | _ => 2

/-- The content of a file on disk, if it can be read. -/
def content? (path : String) : IO (Option Content) := do
  try
    let bytes ← IO.FS.readBinFile path
    return some ((String.fromUTF8? bytes).elim .binary .text)
  catch _ => return none

/-- The lines of a stream up to its end. -/
partial def lines (stream : IO.FS.Stream) : IO (List String) := do
  let line ← stream.getLine
  if line.isEmpty then return []
  else return Text.trimEnd (· == '\n') line :: (← lines stream)

/-- The snapshot of the files that standard input names, seen from a working directory. -/
def snapshot (here : Path) : IO FileSystem := do
  let names := here.segments.filter fun s => !Path.isVoid s
  let mut fs : FileSystem := { root := .directory [], workingDirectory := names }
  fs := fs.write ⟨"."⟩ (.directory [])
  for path in ← lines (← IO.getStdin) do
    if let some content ← content? path then
      fs := fs.write ⟨path⟩ (.file content)
  return fs

/-- Colours are used on a terminal, unless the environment says otherwise. -/
def wantsColors (stream : IO.FS.Stream) : IO Bool := do
  if (← IO.getEnv "NO_COLOR").isSome then return false
  if (← IO.getEnv "CLICOLOR_FORCE").isSome then return true
  stream.isTty

end LayerLint.Main

/-- Runs the command that the words ask for. -/
def main (words : List String) : IO UInt32 := do
  let stdout ← IO.getStdout
  let stderr ← IO.getStderr
  match LayerLint.Command.parse words with
  | .error e =>
    (if LayerLint.Main.usageCode e == 0 then stdout else stderr).putStrLn (LayerLint.Main.usageText e)
    return LayerLint.Main.usageCode e
  | .ok command =>
    let fs ← LayerLint.Main.snapshot ⟨(← IO.getEnv "PWD").getD "/"⟩
    let outcome := command.run fs (← LayerLint.Main.wantsColors stdout)
    stdout.putStr outcome.stdout
    stderr.putStr outcome.stderr
    return UInt32.ofNat outcome.exitCode
