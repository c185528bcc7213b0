import CallAtlas.Settings.Config
import CallAtlas.Text.Decimal
import CallAtlas.Text.Terminal

/-!
# Arguments

`Arguments.parse` reads the arguments of the command line from left to right. An option has a long
name, and may have a short one; its value follows after an equals sign, or as the next argument, or
directly after the short name. A value is looked at when the next option or argument after it has
been recognised, so an argument that is not known is reported before a bad value in front of it.
-/

namespace CallAtlas

/-- What is produced. -/
inductive OutputMode where
  | graph
  | textSummary
  | entityTable
  | json
  | perEntityBatch
  deriving DecidableEq, Repr

namespace OutputMode

/-- All modes. -/
def all : List OutputMode :=
  [.graph, .textSummary, .entityTable, .json, .perEntityBatch]

/-- The word for a mode. -/
def name : OutputMode → String
  | .graph => "graph"
  | .textSummary => "text-summary"
  | .entityTable => "entity-table"
  | .json => "json"
  | .perEntityBatch => "per-entity-batch"

end OutputMode

/-- What the command line asks for. -/
structure Arguments where
  target : String := ""
  mode : OutputMode := .graph
  outFile : Option String := none
  outDir : Option String := none
  selection : Option String := none
  rankDir : Option RankDir := none
  edgeColor : Option EdgeColor := none
  suppressRecursive : Bool := false
  combineCalls : Bool := false
  suppressClasses : Bool := false
  suppressInitializers : Bool := false
  matchToFile : Bool := false
  maxCandidates : Option Limit := none
  dbFile : Option String := none
  noAnalyze : Bool := false
  package : Option String := none
  config : Option String := none
  jobs : Option Nat := none
  rasterizer : Option String := none
  imageFormat : Option String := none
  verbosity : Nat := 0
  deriving DecidableEq, Repr

/-- The options, and the argument without a name. -/
inductive ArgumentName where
  | target
  | outputMode
  | outFile
  | outDir
  | selectEntityId
  | rankDir
  | edgeColor
  | suppressRecursiveCalls
  | combineCalls
  | suppressClassReferences
  | suppressInitializerCalls
  | matchToFile
  | maxCandidates
  | dbFile
  | noAnalyze
  | packageName
  | config
  | jobs
  | rasterizer
  | imageFormat
  | verbose
  | help
  | version
  deriving DecidableEq, Repr

namespace ArgumentName

/-- The options with their long names and, for options with a value, the name of the value. -/
def options : List (ArgumentName × String × Option String) := [
  (.outputMode, "output-mode", some "OUTPUT_MODE"),
  (.outFile, "out-file", some "OUT_FILE"),
  (.outDir, "out-dir", some "OUT_DIR"),
  (.selectEntityId, "select-entity-id", some "IDS"),
  (.rankDir, "rankdir", some "RANKDIR"),
  (.edgeColor, "edge-color", some "EDGE_COLOR"),
  (.suppressRecursiveCalls, "suppress-recursive-calls", none),
  (.combineCalls, "combine-calls", none),
  (.suppressClassReferences, "suppress-class-references", none),
  (.suppressInitializerCalls, "suppress-initializer-calls", none),
  (.matchToFile, "match-to-file", none),
  (.maxCandidates, "max-candidates", some "N"),
  (.dbFile, "db-file", some "DB_FILE"),
  (.noAnalyze, "no-analyze", none),
  (.packageName, "package-name", some "PACKAGE_NAME"),
  (.config, "config", some "CONFIG"),
  (.jobs, "jobs", some "JOBS"),
  (.rasterizer, "rasterizer", some "RASTERIZER"),
  (.imageFormat, "image-format", some "IMAGE_FORMAT"),
  (.verbose, "verbose", none),
  (.help, "help", none),
  (.version, "version", none)]

/-- The option with a long name. -/
def ofLong? (s : String) : Option ArgumentName :=
  (options.find? (·.2.1 == s)).map (·.1)

/-- The option with a short name. -/
def ofShort? : Char → Option ArgumentName
  | 'o' => some .outputMode
  | 'v' => some .verbose
  | 'h' => some .help
  | 'V' => some .version
  | _ => none

/-- Whether an option has a value. -/
def takesValue (a : ArgumentName) : Bool :=
  options.any fun o => o.1 == a && o.2.2.isSome

/-- An argument as it is told in a message. Dots follow one that may come again. -/
def text (a : ArgumentName) : String :=
  match options.find? (·.1 == a) with
  | some (_, long, some value) => "--" ++ long ++ " <" ++ value ++ ">"
  | some (.verbose, long, none) => "--" ++ long ++ "..."
  | some (_, long, none) => "--" ++ long
  | none => "<TARGET>"

end ArgumentName

/-- What is wrong with the arguments. -/
inductive UsageError where
  | unexpected (argument : String)
  | unwantedValue (value : String) (option : ArgumentName)
  | missingValue (option : ArgumentName)
  | invalidChoice (value : String) (option : ArgumentName)
  | invalidValue (value : String) (option : ArgumentName) (reason : String)
  | repeated (option : ArgumentName)
  | missingArguments
  deriving DecidableEq, Repr

/-- What was given, in quotes and without control sequences. -/
def UsageError.quoted (given : String) : String :=
  "'" ++ Text.Terminal.visible given ++ "'"

/-- The wording of an error. -/
def UsageError.message : UsageError → String
  | .unexpected a => "unexpected argument " ++ quoted a ++ " found"
  | .unwantedValue v o =>
    "unexpected value " ++ quoted v ++ " for '" ++ o.text ++ "' found; no more were expected"
  | .missingValue o => "a value is required for '" ++ o.text ++ "' but none was supplied"
  | .invalidChoice v o => "invalid value " ++ quoted v ++ " for '" ++ o.text ++ "'"
  | .invalidValue v o reason =>
    "invalid value " ++ quoted v ++ " for '" ++ o.text ++ "': " ++ reason
  | .repeated o => "the argument '" ++ o.text ++ "' cannot be used multiple times"
  | .missingArguments => "the following required arguments were not provided:"

/-- Why reading arguments stops before its end. -/
inductive Stop where
  | error (e : UsageError)
  | help
  | version
  deriving DecidableEq, Repr

namespace Arguments

/-! ## Values -/

/-- A path. -/
def pathValue (o : ArgumentName) (v : String) : Except Stop String :=
  if v.isEmpty then .error (.error (.missingValue o)) else .ok v

/-- A number. -/
def numberValue (o : ArgumentName) (v : String) : Except Stop Nat :=
  match Text.Decimal.word v.toList with
  | .ok n => .ok n
  | .error e => .error (.error (.invalidValue v o e.message))

/-- A limit. -/
def limitValue (o : ArgumentName) (v : String) : Except Stop Limit := do
  match Limit.ofNat? (← numberValue o v) with
  | some l => return l
  | none => throw (.error (.invalidValue v o "number would be zero for non-zero type"))

/-- A mode. -/
def modeValue (o : ArgumentName) (v : String) : Except Stop OutputMode :=
  match OutputMode.all.find? (·.name == v) with
  | some m => .ok m
  | none => .error (.error (if v.isEmpty then .missingValue o else .invalidChoice v o))

/-- A direction. -/
def rankDirValue (o : ArgumentName) (v : String) : Except Stop RankDir :=
  match RankDir.parse v with
  | .ok d => .ok d
  | .error reason => .error (.error (.invalidValue v o reason))

/-- Set the value of an option. -/
def setValue (a : Arguments) (o : ArgumentName) (v : String) : Except Stop Arguments := do
  match o with
  | .target => return { a with target := ← pathValue o v }
  | .outputMode => return { a with mode := ← modeValue o v }
  | .outFile => return { a with outFile := some (← pathValue o v) }
  | .outDir => return { a with outDir := some (← pathValue o v) }
  | .selectEntityId => return { a with selection := some v }
  | .rankDir => return { a with rankDir := some (← rankDirValue o v) }
  | .edgeColor => return { a with edgeColor := some (.ofString v) }
  | .maxCandidates => return { a with maxCandidates := some (← limitValue o v) }
  | .dbFile => return { a with dbFile := some (← pathValue o v) }
  | .packageName => return { a with package := some v }
  | .config => return { a with config := some (← pathValue o v) }
  | .jobs => return { a with jobs := some (← numberValue o v) }
  | .rasterizer => return { a with rasterizer := some v }
  | .imageFormat => return { a with imageFormat := some v }
  | _ => return a

/-- Set an option without a value. -/
def setFlag (a : Arguments) : ArgumentName → Arguments
  | .suppressRecursiveCalls => { a with suppressRecursive := true }
  | .combineCalls => { a with combineCalls := true }
  | .suppressClassReferences => { a with suppressClasses := true }
  | .suppressInitializerCalls => { a with suppressInitializers := true }
  | .matchToFile => { a with matchToFile := true }
  | .noAnalyze => { a with noAnalyze := true }
  | .verbose => { a with verbosity := min (a.verbosity + 1) 255 }
  | _ => a

/-! ## Reading -/

/-- Arguments while they are read. -/
structure Draft where
  arguments : Arguments := {}
  /-- The options that are set. -/
  given : List ArgumentName := []
  /-- The option that was recognised last, with its value if it came. -/
  pending : Option (ArgumentName × Option String) := none
  /-- Whether only arguments without a name follow. -/
  positional : Bool := false

namespace Draft

/-- Note that an option is set. Only requests for more output may come again. -/
def note (d : Draft) (o : ArgumentName) : Except Stop Draft :=
  if o ≠ .verbose ∧ o ∈ d.given then .error (.error (.repeated o))
  else .ok { d with given := o :: d.given }

/-- Set the value of an option. -/
def assign (d : Draft) (o : ArgumentName) (v : String) : Except Stop Draft := do
  let d ← d.note o
  return { d with arguments := ← d.arguments.setValue o v }

/-- Look at the option that was recognised last. -/
def settle (d : Draft) : Except Stop Draft :=
  match d.pending with
  | none => .ok d
  | some (o, none) => .error (.error (.missingValue o))
  | some (o, some v) => { d with pending := none }.assign o v

/-- Set an option without a value. -/
def flag (d : Draft) (o : ArgumentName) : Except Stop Draft := do
  let d ← d.settle
  match o with
  | .help => throw .help
  | .version => throw .version
  | _ =>
    let d ← d.note o
    return { d with arguments := d.arguments.setFlag o }

/-- Recognise an option, with its value if it is attached. -/
def option (d : Draft) (o : ArgumentName) : Option String → Except Stop Draft
  | some v => do (← d.settle).assign o v
  | none => do return { ← d.settle with pending := some (o, none) }

/-- Take an option with a long name. -/
def long (d : Draft) (name : String) (value : Option String) : Except Stop Draft :=
  match ArgumentName.ofLong? name with
  | none => .error (.error (.unexpected ("--" ++ name)))
  | some o =>
    if o.takesValue then d.option o value
    else
      match value with
      | some v => .error (.error (.unwantedValue v o))
      | none => d.flag o

/-- Take options with short names. The rest after an option with a value is its value. -/
def short (d : Draft) : List Char → Except Stop Draft
  | [] => .ok d
  | c :: cs =>
    match ArgumentName.ofShort? c with
    | none => .error (.error (.unexpected ("-" ++ c.toString)))
    | some o =>
      if o.takesValue then
        match cs with
        | [] => d.option o none
        | '=' :: value => d.option o (some (String.ofList value))
        | value => d.option o (some (String.ofList value))
      else do (← d.flag o).short cs

/-- Take an argument without a name. There is one. -/
def plain (d : Draft) (v : String) : Except Stop Draft :=
  if d.given.contains .target || d.pending.any (·.1 == .target) then
    .error (.error (.unexpected v))
  else do return { ← d.settle with pending := some (.target, some v) }

/-- The name and the attached value of a long option. -/
def splitLong (cs : List Char) : String × Option String :=
  let name := String.ofList (cs.takeWhile (· != '='))
  match cs.dropWhile (· != '=') with
  | [] => (name, none)
  | _ :: value => (name, some (String.ofList value))

/-- Take the next argument. -/
def take (d : Draft) (v : String) : Except Stop Draft :=
  if d.positional then d.plain v
  else
    match v.toList with
    | ['-', '-'] => .ok { d with positional := true }
    | '-' :: '-' :: cs => let (name, value) := splitLong cs; d.long name value
    | '-' :: c :: cs => d.short (c :: cs)
    | _ =>
      match d.pending with
      | some (o, none) => .ok { d with pending := some (o, some v) }
      | _ => d.plain v

/-- All arguments, when those that are required are there. -/
def finish (d : Draft) : Except Stop Arguments := do
  let d ← d.settle
  let complete := d.given.contains .target && (!d.arguments.noAnalyze || d.arguments.dbFile.isSome)
  if complete then return d.arguments else throw (.error .missingArguments)

end Draft

/-- Read the arguments of the command line. -/
def parse (args : List String) : Except Stop Arguments := do
  (← args.foldlM Draft.take {}).finish

/-! ## Settings -/

/-- A configuration with what the command line asks for. -/
def applyTo (a : Arguments) (c : Config) : Config where
  resolve := { c.resolve with
    suppressInitializers := c.resolve.suppressInitializers || a.suppressInitializers
    matchToFile := c.resolve.matchToFile || a.matchToFile
    maxCandidates := a.maxCandidates <|> c.resolve.maxCandidates }
  draw := { c.draw with
    suppressRecursive := c.draw.suppressRecursive || a.suppressRecursive
    combineCalls := c.draw.combineCalls || a.combineCalls
    suppressClasses := c.draw.suppressClasses || a.suppressClasses
    rankDir := a.rankDir.getD c.draw.rankDir
    edgeColor := a.edgeColor.getD c.draw.edgeColor }
  batch := { c.batch with
    outDir := a.outDir.getD c.batch.outDir
    jobs := a.jobs <|> c.batch.jobs
    rasterizer := a.rasterizer.getD c.batch.rasterizer
    format := a.imageFormat.getD c.batch.format }
  logLevel := c.logLevel

end Arguments

end CallAtlas
