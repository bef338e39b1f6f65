import LayerLint.Convention.Catalog
import LayerLint.Discovery
import LayerLint.WorkerPool

/-!
# Analysing a set of files

All sources are read first, and the classes that they declare become known together with those of the
class paths and of the configuration. Then the rules visit each source. A source that cannot be read
is left out and named in the report.
-/

set_option autoImplicit false

namespace LayerLint

/-! ## Reports -/

/-- What the rules say about one file. -/
structure FileReport where
  path : Path
  diagnostics : List Diagnostic
deriving DecidableEq, Inhabited

/-- A file that could not be read. -/
structure SkippedFile where
  path : Path
  cause : ReadError
deriving DecidableEq, Inhabited

/-- Why the file was skipped. -/
def SkippedFile.reason (skipped : SkippedFile) : String :=
  SourceFile.readFailure skipped.path skipped.cause

/-- The outcome of an analysis. -/
structure AnalysisReport where
  /-- The analysed files by path, also those about which nothing is said. -/
  files : List FileReport := []
  /-- The number of analysed files. -/
  checked : Nat := files.length
  /-- The files that could not be read, in the order in which they were given. -/
  skipped : List SkippedFile := []
deriving DecidableEq, Inhabited

namespace AnalysisReport

/-- All diagnostics, file by file. -/
def diagnostics (report : AnalysisReport) : List Diagnostic :=
  report.files.flatMap FileReport.diagnostics

/-- The number of findings about the code. -/
def violationCount (report : AnalysisReport) : Nat :=
  report.diagnostics.countP Diagnostic.isViolation

/-- The number of rules that failed on some declaration. -/
def faultCount (report : AnalysisReport) : Nat :=
  report.diagnostics.countP fun d => !d.isViolation

/-- There is a finding about the code. -/
def hasViolations (report : AnalysisReport) : Bool :=
  0 < report.violationCount

end AnalysisReport

/-! ## The analysis -/

namespace Analysis

/-- The largest number of workers. -/
def maxJobs : Nat := 32

/-- The number of workers that a configuration asks for, kept within bounds. Where it asks for none,
one works alone, in place of as many as the machine can run at once: how many there are makes no
difference to a report. -/
def jobs (config : Config) : Nat :=
  max 1 (min maxJobs (config.jobs.getD 1))

/-- Reads the files at some paths. The results are in the order of the paths. -/
def readAll (fs : FileSystem) (jobs : Nat) (paths : List Path) :
    List (Except ReadError SourceFile) :=
  let work (path : Path) : StateT Unit (StateM Unit) (Except ReadError SourceFile) :=
    return SourceFile.read fs path
  ((WorkerPool.mapItems () work jobs paths).run ()).1

/-- The files that could be read. -/
def readable (outcomes : List (Except ReadError SourceFile)) : List SourceFile :=
  outcomes.filterMap Except.toOption

/-- The paths whose files could not be read. -/
def unreadable (paths : List Path) (outcomes : List (Except ReadError SourceFile)) :
    List SkippedFile :=
  (paths.zip outcomes).filterMap fun
    | (_, .ok _) => none
    | (path, .error cause) => some { path, cause }

/-- The classes that an analysis knows: those of the configuration, then those of the class paths,
then those of the sources. -/
def knownClasses (config : Config) (classFiles sources : List SourceFile) : ClassIndex :=
  (classFiles ++ sources).foldl ClassIndex.addFile (ClassIndex.empty.seed config)

/-- What the rules of an engine say about a file. -/
def visitFile (fs : FileSystem) (config : Config) (classes : ClassIndex) (engine : Engine)
    (file : SourceFile) : StateM HookMemo FileReport := do
  let diagnostics ← engine.visit (Context.ofFile file classes config fs)
  return { path := file.path, diagnostics }

/-- What the rules that a configuration leaves on say about files. The workers share one memory of
hook reads. -/
def visitAll (fs : FileSystem) (config : Config) (classes : ClassIndex) (files : List SourceFile) :
    List FileReport :=
  let work (file : SourceFile) : StateT Unit (StateM HookMemo) FileReport :=
    StateT.lift (visitFile fs config classes (Engine.ofConfig config) file)
  ((WorkerPool.mapItems () work (jobs config) files).run .empty).1

end Analysis

/-- Analyses sources. The files of `classSources` only make classes known. -/
def analyzeFiles (fs : FileSystem) (config : Config) (sources classSources : List Path) :
    AnalysisReport :=
  let jobs := Analysis.jobs config
  let outcomes := Analysis.readAll fs jobs sources
  let files := Analysis.readable outcomes
  let classFiles := Analysis.readable (Analysis.readAll fs jobs classSources)
  let reports :=
    (Analysis.visitAll fs config (Analysis.knownClasses config classFiles files) files).mergeSort
      fun a b => a.path.le b.path
  { files := reports
    checked := reports.length
    skipped := Analysis.unreadable sources outcomes }

/-- Finds and analyses the sources of a target in a project. -/
def analyzeTarget (fs : FileSystem) (config : Config) (root target : Path) : AnalysisReport :=
  analyzeFiles fs config (discover fs config target) (discoverClassPaths fs config root)

end LayerLint
