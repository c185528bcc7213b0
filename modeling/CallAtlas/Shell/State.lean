import CallAtlas.Files.System
import CallAtlas.Shell.Syntax
import CallAtlas.Shell.System
import CallAtlas.Text.Lossy

/-!
# The state of a shell

A shell has parameters, variables, functions and options. Its streams are numbered, and each number
leads to something open : bytes that are still to be read, bytes that were written, or a file with a
position in it. Two numbers can lead to the same open thing. An `Effect` changes the state, and may
end early by its `Fate`.
-/

namespace CallAtlas.Shell

open CallAtlas.Text

/-- Something open that is read or written. -/
inductive Channel where
  | nothing
  | input (bytes : ByteArray) (position : Nat)
  | output (written : ByteArray)
  | file (place : List String) (position : Nat) (access : Access)

/-- The bytes that a channel holds : those that are still to be read, or those that were written. -/
def Channel.content : Channel → ByteArray
  | .nothing => .empty
  | .input bytes position => bytes.extract position bytes.size
  | .output written => written
  | .file _ _ _ => .empty

/-- A variable. One that has no value may still be exported or read only. -/
structure Variable where
  value : Option String := none
  exported : Bool := false
  readOnly : Bool := false

/-- What a running shell knows. -/
structure State where
  name : String
  arguments : List String
  files : FileSystem
  bindings : List (String × Variable) := []
  functions : List (String × Command) := []
  documents : List (Nat × Word) := []
  nextDocument : Nat := 0
  channels : Array Channel := #[]
  /-- Which channel a stream leads to. -/
  streams : List (Nat × Nat) := []
  /-- The letters of the options that are set. -/
  options : List Char := []
  status : Nat := 0
  /-- The line of the command that is run. -/
  line : Nat := 1
  /-- The line that was read last. -/
  lastLine : Nat := 1
  /-- The command of the shell itself that is run. -/
  running : Option String := none
  /-- The status of the last command whose output was filled in. -/
  substituted : Option Nat := none
  /-- What to do on a signal. The number 0 stands for the end. -/
  traps : List (Nat × String) := []
  /-- The signals that came and are to be dealt with. -/
  pending : List Nat := []
  /-- The number of loops around the command that is run. -/
  loops : Nat := 0
  /-- The variables to restore at the end of each function that is run, the innermost first. -/
  locals : List (List (String × Option Variable)) := []
  /-- The letter in the middle of an argument where the reading of options goes on. -/
  optionPosition : Nat := 0

/-- Why an action ends early. A failure is a complaint that was made already. -/
inductive Fate where
  | exits (code : Nat)
  | fails
  | killed (signal : Nat)
  | leaves (loops : Nat)
  | continues (loops : Nat)
  | returns (code : Nat)
  | stuck
  deriving DecidableEq, Repr

/-- What a shell does. -/
abbrev Effect := ExceptT Fate (StateM State)

namespace Effect

variable {α β : Type}

/-- Repeat a step until it gives a result. The number of rounds is bounded. -/
def iterate (step : α → Effect (α ⊕ β)) : Nat → α → Effect β
  | 0, _ => throw .stuck
  | n + 1, a => do
    match ← step a with
    | .inl a => iterate step n a
    | .inr b => return b

/-- The number of rounds that no loop exceeds. -/
def loopLimit : Nat := 1000000

/-- Whether an option is set. -/
def hasOption (c : Char) : Effect Bool :=
  return (← get).options.contains c

/-! ## Channels -/

/-- The number of the process of the shell. -/
def processNumber : Nat := 2

/-- Open a channel. -/
def openChannel (c : Channel) : Effect Nat := do
  let s ← get
  set { s with channels := s.channels.push c }
  return s.channels.size

/-- The channel with a number. -/
def channel (n : Nat) : Effect Channel :=
  return ((← get).channels[n]?).getD .nothing

/-- Change a channel. -/
def setChannel (n : Nat) (c : Channel) : Effect Unit :=
  modify fun s => { s with channels := s.channels.setIfInBounds n c }

/-- Lead a stream to a channel. -/
def lead (stream channel : Nat) : Effect Unit :=
  modify fun s => { s with streams := (stream, channel) :: s.streams.filter (·.1 != stream) }

/-- Close a stream. -/
def close (stream : Nat) : Effect Unit :=
  modify fun s => { s with streams := s.streams.filter (·.1 != stream) }

/-- The channel that a stream leads to. -/
def leadsTo (stream : Nat) : Effect (Option Nat) :=
  return (← get).streams.lookup stream

/-- The content of the file at a place. -/
def contentAt (place : List String) : Effect ByteArray := do
  match (← get).files.root.at? place with
  | some (.file f) => return f.bytes
  | _ => return .empty

/-- Put bytes at a position, over what is there. -/
def overwrite (old : ByteArray) (position : Nat) (b : ByteArray) : ByteArray :=
  let start := old.extract 0 position
  let gap : ByteArray := ⟨(List.replicate (position - old.size) (0 : UInt8)).toArray⟩
  start ++ gap ++ b ++ old.extract (position + b.size) old.size

/-- Write to a channel. -/
def writeTo (n : Nat) (b : ByteArray) : Effect Unit := do
  match ← channel n with
  | .nothing => return
  | .input _ _ => return
  | .output written => setChannel n (.output (written ++ b))
  | .file place position access =>
    match (← get).files.root.at? place with
    | some (.file f) =>
      let position := if access == .appending then f.bytes.size else position
      modify fun s =>
        { s with files := s.files.putFile place { f with bytes := overwrite f.bytes position b } }
      setChannel n (.file place (position + b.size) access)
    | _ => return

/-- Write to a stream, and say whether it is open. -/
def write (stream : Nat) (b : ByteArray) : Effect Bool := do
  match ← leadsTo stream with
  | none => return b.isEmpty
  | some n => writeTo n b; return true

/-- Write a text to a stream. -/
def writeText (stream : Nat) (s : String) : Effect Unit := do
  let _ ← write stream s.toUTF8

/-- The bytes that a channel reads from, and its position in them. -/
def source (n : Nat) : Effect (ByteArray × Nat) := do
  match ← channel n with
  | .input bytes position => return (bytes, position)
  | .file place position _ => return (← contentAt place, position)
  | _ => return (.empty, 0)

/-- Skip bytes of a channel. -/
def skip (n count : Nat) : Effect Unit := do
  match ← channel n with
  | .input bytes position => setChannel n (.input bytes (position + count))
  | .file place position access => setChannel n (.file place (position + count) access)
  | _ => return

/-- Read a stream, at most a number of bytes. -/
def read (stream count : Nat) : Effect ByteArray := do
  match ← leadsTo stream with
  | none => return .empty
  | some n =>
    let (bytes, position) ← source n
    let taken := bytes.extract position (position + count)
    skip n taken.size
    return taken

/-- Read a stream to its end. -/
def readAll (stream : Nat) : Effect ByteArray := do
  match ← leadsTo stream with
  | none => return .empty
  | some n => read stream (← source n).1.size

/-- The position of the next line end, at most a number of bytes away. -/
def lineEnd (b : ByteArray) : Nat → Nat → Nat
  | 0, i => i
  | n + 1, i => if b[i]? == some 10 then i else lineEnd b n (i + 1)

/-- Read a line, and say whether it had an end. -/
def readLine (stream : Nat) : Effect (List UInt8 × Bool) := do
  match ← leadsTo stream with
  | none => return ([], false)
  | some n =>
    let (bytes, position) ← source n
    let stop := lineEnd bytes (bytes.size - position) position
    let ended := stop < bytes.size
    skip n (stop - position + if ended then 1 else 0)
    return ((bytes.extract position stop).toList, ended)

/-! ## Complaints -/

/-- Complain on the error stream. -/
def complain (text : String) : Effect Unit := do
  let s ← get
  let running := (s.running.map (· ++ ": ")).getD ""
  writeText 2 (s.name ++ ": " ++ toString s.line ++ ": " ++ running ++ text ++ "\n")

/-- Complain and fail. -/
def fail (text : String) : Effect α := do
  complain text
  throw .fails

/-! ## Variables -/

/-- The variable with a name. -/
def lookUp? (name : String) : Effect (Option Variable) :=
  return (← get).bindings.lookup name

/-- The value of a variable. -/
def value? (name : String) : Effect (Option String) :=
  return (← lookUp? name).bind (·.value)

/-- Change a variable without asking. -/
def putVariable (name : String) (v : Option Variable) : Effect Unit :=
  modify fun s => { s with
    bindings := (v.toList.map (name, ·)) ++ s.bindings.filter (·.1 != name) }

/-- Give a variable a value. -/
def assign (name value : String) : Effect Unit := do
  let v := (← lookUp? name).getD {}
  if v.readOnly then fail (name ++ ": is read only")
  putVariable name
    (some { v with value := some value, exported := v.exported || (← hasOption 'a') })
  if name == "OPTIND" then modify ({ · with optionPosition := 0 })

/-- The characters that divide fields. -/
def separators : Effect String :=
  return (← value? "IFS").getD " \t\n"

/-! ## Files -/

/-- Why a file cannot be used. -/
def reason (absent : String) : OsError → String
  | .notFound => absent
  | .notDirectory => absent
  | e => e.text

/-- Open the file at a path. -/
def openFile (path : String) (access : Access) : Effect (Except OsError Nat) := do
  if path == "/dev/null" then return .ok (← openChannel .nothing)
  match System.streams.lookup path with
  | some stream => return .ok ((← leadsTo stream).getD (← openChannel .nothing))
  | none =>
    let fs := (← get).files
    let here := fs.find path
    match access, here with
    | .reading, .error e => return .error e
    | .reading, .ok (.directory _ _) => return .ok (← openChannel .nothing)
    | _, .ok (.directory _ _) => return .error .isDirectory
    | _, _ =>
      let old := (fs.read path).toOption
      let content := if access == .writing then .empty else old.getD .empty
      let changed := if access != .writing && old.isSome then .ok fs else fs.write path content
      match changed with
      | .error e => return .error e
      | .ok files =>
        modify ({ · with files })
        match files.locate path with
        | .error e => return .error e
        | .ok place => return .ok (← openChannel (.file place 0 access))

/-- The content of the file at a path, as programs see it. -/
def readFile (path : String) : Effect (Except OsError ByteArray) := do
  if path == "/dev/null" then return .ok .empty
  match System.streams.lookup path with
  | some stream => return .ok (← readAll stream)
  | none => return (← get).files.read path

/-! ## Shells inside shells -/

/-- Take an action in a copy of the shell. Only what it does to files and channels remains. -/
def inCopy (run : Effect Nat) : Effect Nat := do
  let before ← get
  let restore (status : Nat) : Effect Unit := modify fun after => { before with
    files := { after.files with cwd := before.files.cwd }
    channels := after.channels
    documents := after.documents
    nextDocument := after.nextDocument
    status }
  let code ← try run catch
    | .exits code => pure code
    | .returns code => pure code
    | .fails => pure 2
    | .leaves _ => pure (← get).status
    | .continues _ => pure (← get).status
    | fate => restore before.status; throw fate
  restore code
  return code

end Effect

end CallAtlas.Shell
