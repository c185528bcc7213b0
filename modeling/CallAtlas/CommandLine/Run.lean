import CallAtlas.Analysis
import CallAtlas.CommandLine.Arguments
import CallAtlas.Files.Discovery
import CallAtlas.Graph.Selection
import CallAtlas.Images.Batch
import CallAtlas.LogLevel
import CallAtlas.Report.GraphDocument
import CallAtlas.Report.Summary
import CallAtlas.Report.Table
import CallAtlas.Code.SourceReader
import CallAtlas.Settings.Load
import CallAtlas.Shell.Program
import CallAtlas.Store.Database
import CallAtlas.Store.Memory

/-!
# The command line

`CommandLine.run` does what a command line asks for, as a function on a `World` : the file system
and the databases in it. It loads the configuration, opens the store, analyzes the sources unless
the stored catalog is to be used, and writes the output. `Result` is what a user sees of it.
-/

namespace CallAtlas

/-- The file system, and the databases by their places. -/
structure World where
  files : FileSystem := {}
  databases : List (List String × Database) := []

/-- Why the command line fails. -/
inductive Failure where
  | config (e : ConfigError)
  | database (path : String)
  | storeClosed (e : StoreError)
  | analysis (e : AnalysisError)
  | unwritable (path : String) (cause : OsError)
  | render (e : RenderError)
  | images (e : BatchError)
  deriving DecidableEq, Repr

/-- What failed. -/
def Failure.headline : Failure → String
  | .config e => e.message
  | .database path => "Cannot open catalog database " ++ path
  | .storeClosed _ => "Cannot open catalog store"
  | .analysis e => e.headline
  | .unwritable path _ => "Failed to write " ++ path
  | .render e => e.message
  | .images e => e.message

/-- What a user sees : the exit code, the output, the complaint, and warnings that a log directive
lets through. -/
structure Result where
  code : Nat := 0
  output : String := ""
  complaint : Option String := none
  warnings : List Warning := []
  directive : String := "warn"

namespace Result

/-- What is logged, and the complaint. -/
def complaints (r : Result) : List String :=
  (if LogLevel.showsWarnings r.directive then r.warnings.map (·.logText) else []) ++
    r.complaint.toList

/-- The first line among the complaints that calls itself an error. -/
def errorLine? (r : Result) : Option String :=
  (r.complaints.flatMap fun text => Text.splitOn '\n' text.toList).findSome? fun cs =>
    let line := String.ofList (if cs.getLast? = some '\r' then cs.dropLast else cs)
    if line.startsWith "Error:" || line.startsWith "error:" then some line else none

end Result

namespace CommandLine

/-! ## Output -/

/-- A text with the end of its line, or the text in a file. -/
def deliver (fs : FileSystem) (file : Option String) (text : String) :
    FileSystem × Except Failure String :=
  match file with
  | none => (fs, .ok (text ++ "\n"))
  | some path =>
    match fs.write path text.toUTF8 with
    | .ok fs => (fs, .ok "")
    | .error e => (fs, .error (.unwritable path e))

/-- The drawing as text. A file that cannot be written is a fault of the drawing. -/
def deliverGraph (fs : FileSystem) (file : Option String) (p : Projection) (o : DrawOptions) :
    FileSystem × Except Failure String :=
  match deliver fs file (p.draw o).toDot with
  | (fs, .error (.unwritable path e)) => (fs, .error (.render (.io path e)))
  | delivered => delivered

/-- The images of a batch. -/
def deliverImages (fs : FileSystem) (p : Projection) (c : Config) :
    FileSystem × List Warning × Except Failure String :=
  let rasterizer : Rasterizer := ⟨c.batch.rasterizer, c.batch.format⟩
  let b : Batch := {
    options := c.draw
    excluded := c.resolve.initializers ++ c.batch.finalizers
    extension := c.batch.format
    outDir := c.batch.outDir }
  match b.run p FileSystem.makeDirectories rasterizer.rasterize fs with
  | (fs, .error e) => (fs, [], .error (.images e))
  | (fs, .ok report) =>
    let line := "Wrote " ++ toString report.written.length ++ " image(s) to " ++ c.batch.outDir ++
      " (" ++ toString report.failures.length ++ " failed)\n"
    (fs, report.failures.map (·.warning), .ok line)

/-- What the mode asks for. -/
def produce (a : Arguments) (c : Config) (fs : FileSystem) (catalog : Catalog) (p : Projection) :
    FileSystem × List Warning × Except Failure String :=
  let plain := fun ((fs, r) : FileSystem × Except Failure String) => (fs, ([] : List Warning), r)
  match a.mode with
  | .graph => plain (deliverGraph fs a.outFile p c.draw)
  | .textSummary => plain (deliver fs a.outFile (Report.summary catalog p))
  | .entityTable => plain (deliver fs a.outFile (Report.entityTable p))
  | .json => plain (deliver fs a.outFile (Report.graphText p))
  | .perEntityBatch => deliverImages fs p c

/-! ## Analysis -/

/-- Bring the catalog of a store up to date. -/
def refresh {β : Type} [Backend β] (a : Arguments) (c : Config) (fs : FileSystem) (s : Store β) :
    Store β × List Warning × Except Failure Unit :=
  if a.noAnalyze then
    let warnings := if s.committed.isEmpty then [{ message := "stored catalog is empty" }] else []
    (s, warnings, .ok ())
  else
    let found := (Discovery.new fs a.target a.package).sources fs
    let early := (found.toOption.map (·.2)).getD []
    let sources := (found.map (·.1)).mapError (·.message)
    match s.analyze sources (Code.sourceReader fs) c.resolve with
    | (s, warnings, .error e) => (s, early ++ warnings, .error (.analysis e))
    | (s, warnings, .ok report) =>
      let late := if 0 < report.failedFiles then
        [{ message := toString report.failedFiles ++ " file(s) could not be analyzed" }] else []
      (s, early ++ warnings ++ late, .ok ())

/-- The entities to show, and the configuration with the selected ones highlighted. -/
def select (a : Arguments) (c : Config) (p : Projection) : Projection × Config × List Warning :=
  match a.selection with
  | none => (p, c, [])
  | some text =>
    let (p, warnings) := p.pruneByText text
    match Selection.parse text with
    | .ok s => (p, { c with draw := { c.draw with highlight := s } }, warnings)
    | .error _ => (p, c, warnings)

/-- The result of a failure. -/
def failed (f : Failure) (warnings : List Warning) : Result where
  code := 1
  complaint := some ("Error: " ++ f.headline)
  warnings := warnings

/-- Work on an open backend. -/
def work {β : Type} [Backend β] (a : Arguments) (c : Config) (fs : FileSystem) (backend : β) :
    FileSystem × β × Result :=
  match Store.openWith backend with
  | .error e => (fs, backend, failed (.storeClosed e) [])
  | .ok s =>
    match refresh a c fs s with
    | (s, warnings, .error f) => (fs, s.backend, failed f warnings)
    | (s, warnings, .ok ()) =>
      let (p, c, more) := select a c s.committed.project
      match produce a c fs s.committed p with
      | (fs, last, .error f) => (fs, s.backend, failed f (warnings ++ more ++ last))
      | (fs, last, .ok output) =>
        (fs, s.backend, { output, warnings := warnings ++ more ++ last })

/-! ## Databases -/

/-- The directory for large values in the directory of a database. -/
def largeValues : String := "blobs"

/-- Open the database at a path, making its directories. -/
def openDatabase (w : World) (path : String) : Option (FileSystem × List String × Database) := do
  let fs ← (w.files.makeDirectories (Path.join path largeValues)).toOption
  let place ← (fs.locate path).toOption
  return (fs, place, (w.databases.lookup place).getD {})

/-- Keep a database at its place. -/
def keepDatabase (place : List String) (d : Database) (ds : List (List String × Database)) :
    List (List String × Database) :=
  (place, d) :: ds.filter (·.1 != place)

/-! ## Running -/

/-- Do what arguments ask for. -/
def perform (w : World) (a : Arguments) : World × Result :=
  match Config.load w.files a.config with
  | .error e => (w, failed (.config e) [])
  | .ok c =>
    let c := a.applyTo c
    let directive := LogLevel.directive c.logLevel a.verbosity
    match a.dbFile with
    | none =>
      let (files, _, result) := work a c w.files Memory.mk
      ({ w with files }, { result with directive })
    | some path =>
      match openDatabase w path with
      | none => (w, failed (.database path) [])
      | some (files, place, database) =>
        let (files, database, result) := work a c files database
        (⟨files, keepDatabase place database w.databases⟩, { result with directive })

/-- The line that tells the version. -/
def versionLine : String :=
  "callflow 0.1.0\n"

/-- Do what a command line asks for. -/
def run (w : World) (args : List String) : World × Result :=
  match Arguments.parse args with
  | .ok a => perform w a
  | .error (.error e) => (w, { code := 2, complaint := some ("error: " ++ e.message) })
  | .error .version => (w, { output := versionLine })
  | .error .help => (w, {})

end CommandLine

end CallAtlas
