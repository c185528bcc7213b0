import CallAtlas.Shell.Builtin
import CallAtlas.Shell.Installed

/-!
# Running scripts

`run` runs a command. How the commands inside of it are run is given by a `Runner`, and `commands`
ties the knot : the depth of commands inside commands is bounded. A pipeline is run from left to
right, and what a command writes is kept for the next one. A failure that is not asked about ends a
shell that was told so.
-/

namespace CallAtlas.Shell

open CallAtlas.Text Effect

/-- How commands are run. The flag says that the status is asked about, so that a failure is no
reason to stop. -/
abbrev Runner := Bool → Command → Effect Nat

namespace Runner

variable (run : Runner)

/-! ## Words -/

/-- What a command writes, without the ends of lines at its end. -/
def output (c : Command) : Effect String := do
  let status := (← get).status
  let sink ← openChannel (.output .empty)
  let code ← inCopy do
    modify ({ · with traps := [] })
    lead 1 sink
    run false c
  modify ({ · with status, substituted := some code })
  let bs := (← channel sink).content.toList.filter (· != 0)
  return Lossy.decode (Format.ofBytes (bs.reverse.dropWhile (· == 10)).reverse)

/-- Fill in a word as one text. -/
def text (w : Word) : Effect String :=
  Expansion.text run.output w

/-- Fill in words as arguments. -/
def fields : List Word → Effect (List String)
  | [] => return []
  | w :: ws => do
    let first ← Expansion.fields run.output w
    return first ++ (← fields ws)

/-! ## Redirections -/

/-- A redirection whose word is filled in. -/
inductive Connection where
  | file (stream : Nat) (access : Access) (path : String)
  | copy (stream other : Nat)
  | closed (stream : Nat)
  | document (stream : Nat) (text : String)

/-- Fill in the word of a redirection. -/
def connection : Redirection → Effect Connection
  | .file stream access path => return .file stream access (← run.text path)
  | .copy stream source => do
    let s ← run.text source
    match s.toList with
    | ['-'] => return .closed stream
    | [c] =>
      if Decimal.isDigit c then return .copy stream (Decimal.digit c)
    | _ => pure ()
    modify fun s => { s with line := s.lastLine }
    fail "Syntax error: Bad fd number"
  | .document stream number => do
    let w := ((← get).documents.lookup number).getD []
    return .document stream (← run.text w)

/-- Make a connection. -/
def connect : Connection → Effect Unit
  | .file stream access path => do
    match ← openFile path access with
    | .ok n => lead stream n
    | .error e =>
      if access == .reading then fail ("cannot open " ++ path ++ ": " ++ reason "No such file" e)
      else fail ("cannot create " ++ path ++ ": " ++ reason "Directory nonexistent" e)
  | .copy stream other => do
    match ← leadsTo other with
    | some n => lead stream n
    | none => fail (toString other ++ ": Bad file descriptor")
  | .closed stream => close stream
  | .document stream text => do lead stream (← openChannel (.input text.toUTF8 0))

/-- Make connections, and say whether all could be made. -/
def connectAll (cs : List Connection) : Effect Bool := do
  try
    cs.forM connect
    return true
  catch
    | .fails => return false
    | e => throw e

/-- Lead the streams back to where they led before, whatever happens. -/
def restoring {α : Type} (streams : List (Nat × Nat)) (body : Effect α) : Effect α := do
  try
    let a ← body
    modify ({ · with streams })
    return a
  catch e =>
    modify ({ · with streams })
    throw e

/-- Run a command with redirections. -/
def redirected (line : Nat) (rs : List Redirection) (body : Effect Nat) : Effect Nat := do
  modify ({ · with line })
  let connections ← rs.mapM run.connection
  restoring (← get).streams do
    if ← connectAll connections then body else return 2

/-! ## Scripts -/

/-- Run the commands of a text, line by line. -/
def script (source : String) : Effect Nat := do
  let s ← get
  let start : Source :=
    { rest := source.toList, nextDocument := s.nextDocument, documents := s.documents }
  let (status, _) ← iterate (fun ((status, src) : Nat × Source) => do
    let before := src
    match Parse.nextLine src with
    | .error e =>
      modify ({ · with line := e.line })
      fail ("Syntax error: " ++ e.text)
    | .ok (none, src) => return .inr (status, src)
    | .ok (some c, src) =>
      modify ({ · with
        nextDocument := src.nextDocument, documents := src.documents, lastLine := src.line })
      if ← hasOption 'v' then
        writeText 2 (String.ofList (before.rest.take (before.rest.length - src.rest.length)))
      match c with
      | .nothing => return .inl (status, src)
      | c =>
        let status ← run false c
        return .inl (status, { src with nextDocument := (← get).nextDocument }))
          loopLimit (0, start)
  return status

/-- Run what belongs to a shell to its end, and what it wants done at its end. -/
def toEnd (body : Effect Nat) : Effect Nat := do
  let settled (usual : Nat → Nat) (body : Effect Nat) : Effect Nat := do
    try
      return usual (← body)
    catch
      | .exits code => return code
      | .returns code => return code % 256
      | .fails => return 2
      | .leaves _ => return (← get).status
      | .continues _ => return (← get).status
      | e => throw e
  let code ← settled id body
  match (← get).traps.lookup 0 with
  | none => return code
  | some action =>
    modify fun s => { s with status := code, traps := s.traps.filter (·.1 != 0) }
    settled (fun _ => code) (run.script action)

/-- Run a shell inside of this one. -/
def subshell (body : Effect Nat) : Effect Nat :=
  inCopy do
    modify ({ · with traps := [], loops := 0 })
    toEnd run body

/-! ## Programs -/

/-- Take the letters that are only for the start out of the options in front. -/
def startLetters : List String → List Char × List String
  | [] => ([], [])
  | word :: rest =>
    match word.toList with
    | '-' :: c :: cs =>
      if c == '-' || (c :: cs).contains 'o' then ([], word :: rest)
      else
        let isStart (d : Char) : Bool := d == 'c' || d == 's'
        let others := (c :: cs).filter (!isStart ·)
        let (letters, rest) := startLetters rest
        ((c :: cs).filter isStart ++ letters,
          if others.isEmpty then rest else String.ofList ('-' :: others) :: rest)
    | _ => ([], word :: rest)

/-- Run a shell of its own, with its arguments. -/
def newShell (name : String) (args : List String) : Effect Nat :=
  inCopy do
    modify fun s => { s with
      name
      arguments := []
      bindings := s.bindings.filterMap fun (n, v) =>
        if v.exported then some (n, { v with readOnly := false }) else none
      functions := [], options := [], traps := [], locals := [], loops := 0, running := none
      line := 0, status := 0 }
    toEnd run do
      let (letters, args) := startLetters args
      let command := letters.contains 'c'
      let operands := (← Builtin.setOptions args).getD []
      if letters.contains 's' && !command then
        modify ({ · with arguments := operands })
        return ← run.script (Lossy.decode (← readAll 0))
      match operands with
      | [] =>
        if command then fail "-c requires an argument" else run.script (Lossy.decode (← readAll 0))
      | first :: rest =>
        if command then
          match rest with
          | [] => run.script first
          | name :: rest =>
            modify ({ · with name, arguments := rest })
            run.script first
        else
          match (← get).files.read first with
          | .error e => fail ("cannot open " ++ first ++ ": " ++ reason "No such file" e)
          | .ok b =>
            modify ({ · with name := first, arguments := rest })
            run.script (Lossy.decode b)

/-- Change variables and run a program, as words say. -/
def withVariables (launch : String → List String → Effect Nat) : List String → Effect Nat
  | [] => return 0
  | word :: rest =>
    match Builtin.assignment word with
    | (name, some value) => do
      putVariable name (some { value := some value, exported := true })
      withVariables launch rest
    | (_, none) =>
      match word.toList with
      | ['-', 'i'] => withVariables launch rest
      | '-' :: 'S' :: words =>
        match (Text.splitOn ' ' words).filter (!·.isEmpty) with
        | [] => return 0
        | program :: more => launch (String.ofList program) (more.map String.ofList ++ rest)
      | '-' :: c :: _ =>
        Utility.misused System.environmentRunner ("invalid option -- '" ++ c.toString ++ "'") 125
      | _ => launch word rest

/-- The number of programs that may run each other with changed variables. -/
def launchLimit : Nat := 1000

/-- Run an installed program. -/
def launch : Nat → Loaded → Effect Nat
  | 0, _ => throw .stuck
  | n + 1, p => do
    if System.shells.contains p.program then run.newShell p.name p.arguments
    else if p.program == System.environmentRunner then
      inCopy (withVariables (fun word rest => do
        match Program.find (← get).files word rest with
        | .ok other => launch n other
        | .error e =>
          Utility.complain p.name ("'" ++ word ++ "': " ++ e.text)
          return if e == .notFound then 127 else 126) p.arguments)
    else
      match utilities.lookup p.program with
      | some utility => inCopy (utility p.name p.arguments)
      | none => return 127

/-- What is said of a program that was stopped by a signal. -/
def obituary : Nat → Option String
  | 1 => some "Hangup"
  | 3 => some "Quit"
  | 6 => some "Aborted"
  | 9 => some "Killed"
  | 10 => some "User defined signal 1"
  | 11 => some "Segmentation fault"
  | 12 => some "User defined signal 2"
  | 14 => some "Alarm clock"
  | 15 => some "Terminated"
  | _ => none

/-- Go on after a program that was stopped by a signal. -/
def surviving (body : Effect Nat) : Effect Nat := do
  try body
  catch
    | .killed signal =>
      if let some text := obituary signal then writeText 2 (text ++ "\n")
      return 128 + signal
    | e => throw e

/-- Run a program as a command. A script without a first line for an interpreter is run by
the shell. -/
def external (name : String) (args : List String) : Effect Nat := do
  if name.isEmpty then
    complain ": Permission denied"
    return 126
  match Program.find (← get).files name args with
  | .ok p => surviving (run.launch launchLimit p)
  | .error .notExecutable => surviving (run.newShell name (name :: args))
  | .error .permissionDenied => complain (name ++ ": Permission denied"); return 126
  | .error e => complain (name ++ ": " ++ reason "not found" e); return 127

/-! ## Simple commands -/

/-- Take an action in the name of a command of the shell. -/
def named {α : Type} (name : String) (body : Effect α) : Effect α := do
  let running := (← get).running
  modify ({ · with running := some name })
  try
    let a ← body
    modify ({ · with running })
    return a
  catch e =>
    modify ({ · with running })
    throw e

/-- Call a function. -/
def call (tested : Bool) (body : Command) (args : List String) : Effect Nat := do
  let before ← get
  set { before with arguments := args, loops := 0, locals := [] :: before.locals }
  let leave : Effect Unit := do
    let frame := (← get).locals.headD []
    frame.forM fun (name, v) => putVariable name v
    modify
      ({ · with arguments := before.arguments, loops := before.loops, locals := before.locals })
  try
    let status ← run tested body
    leave
    return status
  catch
    | .returns code => leave; return code
    | e => leave; throw e

/-- Where a command is found, in words. -/
def describe (fs : FileSystem) (functions : List String) (name : String) : Option String :=
  if functions.contains name then some "a shell function"
  else if Parse.reserved.contains name then some "a shell keyword"
  else if (Builtin.special.lookup name).isSome || [".", "eval", "exec"].contains name then
    some "a special shell builtin"
  else if Builtin.isBuiltin name then some "a shell builtin"
  else if name.toList.contains '/' then (fs.find name).toOption.map fun _ => name
  else if System.programs.contains name then some (Path.join System.programDirectory name)
  else none

/-- Say where commands are found. -/
def type (names : List String) : Effect Nat := do
  let s ← get
  let mut status := 0
  for name in names do
    match describe s.files (s.functions.map (·.1)) name with
    | some d => writeText 1 (name ++ " is " ++ d ++ "\n")
    | none =>
      writeText 1 (name ++ ": not found\n")
      status := 127
  return status

/-- Say by which name or path a command is found. -/
def whereIs (names : List String) : Effect Nat := do
  let s ← get
  let mut status := 0
  for name in names do
    match describe s.files (s.functions.map (·.1)) name with
    | some d => writeText 1 ((if d.startsWith "/" then d else name) ++ "\n")
    | none => status := 127
  return status

/-- Run a file in this shell. -/
def source (path : String) : Effect Nat := do
  match (← get).files.read path with
  | .error e => fail ("cannot open " ++ path ++ ": " ++ reason "No such file" e)
  | .ok b =>
    try named path (run.script (Lossy.decode b))
    catch
      | .returns code => return code
      | e => throw e

/-- Run a program in place of the shell. -/
def replace (name : String) (args : List String) : Effect Nat := do
  let status ← run.external name args
  modify fun s => { s with traps := [] }
  throw (.exits status)

/-- Run a command of the shell. Those that run other commands are given here. -/
def builtin? (name : String) (args : List String) : Option (Effect Nat) :=
  match name with
  | "eval" => some (run.script (" ".intercalate args))
  | "." =>
    match args with
    | path :: _ => some (run.source path)
    | [] => some (return 0)
  | "exec" =>
    match args with
    | program :: rest => some (run.replace program rest)
    | [] => some (return 0)
  | "type" => some (type args)
  | name => ((Builtin.special ++ Builtin.regular).lookup name).map (· args)

/-- Whether a command of the shell ends it when it fails. -/
def isSpecial (name : String) : Bool :=
  (Builtin.special.lookup name).isSome || [".", "eval", "exec"].contains name

/-- Run a command of the shell that does not end it when it fails. -/
def tolerant (name : String) (body : Effect Nat) : Effect Nat := do
  try named name body
  catch
    | .fails => return 2
    | e => throw e

/-- Run a command, functions apart. -/
def command (args : List String) : Effect Nat := do
  match args with
  | [] => return 0
  | "-v" :: names => whereIs names
  | "-V" :: names => type names
  | "-p" :: name :: rest =>
    match run.builtin? name rest with
    | some body => tolerant name body
    | none => run.external name rest
  | name :: rest =>
    match run.builtin? name rest with
    | some body => tolerant name body
    | none => run.external name rest

/-- Run a command that is given by its arguments. -/
def invoke (tested : Bool) : List String → Effect Nat
  | [] => return (← get).substituted.getD 0
  | name :: args => do
    if isSpecial name then
      match run.builtin? name args with
      | some body => named name body
      | none => return 0
    else
      match (← get).functions.lookup name with
      | some body => run.call tested body args
      | none =>
        if name == "command" then run.command args
        else
          match run.builtin? name args with
          | some body => tolerant name body
          | none => run.external name args

/-- Assign variables for good. -/
def assignAll : List (String × Word) → Effect (List String)
  | [] => return []
  | (name, w) :: rest => do
    let value ← run.text w
    assign name value
    return (name ++ "=" ++ value) :: (← assignAll rest)

/-- Assign variables for the time of an action. -/
def assigning (assignments : List (String × Word)) (body : List String → Effect Nat) :
    Effect Nat := do
  let old ← assignments.mapM fun (name, _) => return (name, ← lookUp? name)
  let restore : Effect Unit := old.reverse.forM fun (name, v) => putVariable name v
  try
    let traced ← run.assignAll assignments
    for (name, _) in assignments do
      putVariable name (some { ((← lookUp? name).getD {}) with exported := true })
    let status ← body traced
    restore
    return status
  catch e =>
    restore
    throw e

/-- Fill in a text that stands for a word. -/
def filledIn (s : String) : Effect String := do
  let g := Parse.commands (s.length + 1)
  match Parse.piecesIn (Parse.Grammar.substituted g) .document { rest := s.toList } with
  | .ok (w, _) => run.text w
  | .error _ => return s

/-- Show a command before it is run. -/
def trace (channel : Option Nat) (words : List String) : Effect Unit := do
  if ← hasOption 'x' then
    if let some n := channel then
      let start ← run.filledIn ((← value? "PS4").getD "+ ")
      writeTo n (start ++ " ".intercalate words ++ "\n").toUTF8

/-- Run a simple command. -/
def simple (tested : Bool) (line : Nat) (assignments : List (String × Word)) (words : List Word)
    (rs : List Redirection) : Effect Nat := do
  modify ({ · with line, substituted := none })
  let args ← run.fields words
  let connections ← rs.mapM run.connection
  let special := (args.head?.map isSpecial).getD false
  let before := (← get).streams
  let complaints ← leadsTo 2
  let body : Effect Nat := do
    if !(← connectAll connections) then
      if special then throw .fails
      return 2
    if args.isEmpty || special then
      let traced ← run.assignAll assignments
      run.trace complaints (traced ++ args)
      run.invoke tested args
    else
      run.assigning assignments fun traced => do
        run.trace complaints (traced ++ args)
        run.invoke tested args
  if args == ["exec"] then body else restoring before body

/-! ## Compound commands -/

/-- Run the commands of a pipeline, each with what the one before has written. -/
def pipeline (tested : Bool) : Option Nat → List Command → Effect Nat
  | _, [] => return 0
  | input, c :: cs => do
    let sink ← openChannel (.output .empty)
    let status ← run.subshell do
      if let some n := input then lead 0 n
      if !cs.isEmpty then lead 1 sink
      run tested c
    match cs with
    | [] => return status
    | cs =>
      let written := (← channel sink).content
      pipeline tested (some (← openChannel (.input written 0))) cs

/-- What becomes of a loop after a round. -/
inductive Round where
  | next (status : Nat)
  | done (status : Nat)

/-- Run a round of a loop. -/
def round (body : Effect Round) : Effect Round := do
  let loops := (← get).loops
  modify ({ · with loops := loops + 1 })
  let result ← try
      body
    catch
      | .leaves 1 => pure (.done 0)
      | .continues 1 => pure (.next 0)
      | .leaves (n + 1) => modify ({ · with loops }); throw (.leaves n)
      | .continues (n + 1) => modify ({ · with loops }); throw (.continues n)
      | e => modify ({ · with loops }); throw e
  modify ({ · with loops })
  return result

/-- Run a loop with a condition. -/
def repetition (tested whileTrue : Bool) (test body : Command) : Effect Nat :=
  iterate (fun (status : Nat) => do
    let result ← round do
      if ((← run true test) == 0) == whileTrue then return .next (← run tested body)
      return .done status
    match result with
    | .next status => return .inl status
    | .done status => return .inr status) loopLimit 0

/-- Run a loop over words. -/
def iteration (tested : Bool) (name : String) (body : Command) : List String → Nat → Effect Nat
  | [], status => return status
  | value :: values, _ => do
    let result ← round do
      assign name value
      return .next (← run tested body)
    match result with
    | .next status => iteration tested name body values status
    | .done status => return status

/-- Whether one of some patterns matches a text. -/
def matchesAny (text : List UInt8) : List Word → Effect Bool
  | [] => return false
  | w :: ws => do
    let p ← Expansion.pattern run.output w
    if p.fits text then return true
    matchesAny text ws

/-- Run the first case whose pattern matches. -/
def selection (tested : Bool) (text : List UInt8) : List (List Word × Command) → Effect Nat
  | [] => return 0
  | (patterns, body) :: rest => do
    if ← run.matchesAny text patterns then run tested body
    else selection tested text rest

/-- End the shell after a failure, if it was told so and nobody asks about it. -/
def orEnd (tested : Bool) (status : Nat) : Effect Nat := do
  modify ({ · with status })
  if status != 0 && !tested && (← hasOption 'e') then throw (.exits status)
  return status

/-- Do what is to be done on the signals that came. -/
def signals : Effect Unit := do
  let s ← get
  if !s.pending.isEmpty then
    set { s with pending := [] }
    for n in s.pending do
      if let some action := s.traps.lookup n then
        let _ ← run.script action
    modify ({ · with status := s.status })

/-- Run a command. -/
def step (tested : Bool) : Command → Effect Nat
  | .nothing => return 0
  | .simple line assignments words rs => do
    let status ← run.simple tested line assignments words rs
    let status ← orEnd tested status
    run.signals
    return status
  | .pipeline cs => do orEnd tested (← run.pipeline tested none cs)
  | .subshell c => do orEnd tested (← run.subshell (run tested c))
  | .background c => do
    let _ ← run.subshell do
      lead 0 (← openChannel .nothing)
      run tested c
    return 0
  | .negation c => return if (← run true c) == 0 then 1 else 0
  | .both a b => do
    let status ← run true a
    if status == 0 then run tested b else return status
  | .either a b => do
    let status ← run true a
    if status == 0 then return status else run tested b
  | .sequence a b => do
    let _ ← run tested a
    run tested b
  | .redirected line c rs => run.redirected line rs (run tested c)
  | .choice test yes no => do
    if (← run true test) == 0 then run tested yes else run tested no
  | .repetition whileTrue test body => run.repetition tested whileTrue test body
  | .iteration line name words body => do
    modify ({ · with line })
    run.iteration tested name body (← run.fields words) 0
  | .selection line word cases => do
    modify ({ · with line })
    let text ← run.text word
    run.selection tested text.toUTF8.toList cases
  | .definition name body => do
    modify fun s => { s with functions := (name, body) :: s.functions.filter (·.1 != name) }
    return 0

end Runner

/-- Run commands, inside each other at most a number of times. -/
def commands : Nat → Runner
  | 0, _, _ => throw .stuck
  | n + 1, tested, c => do
    if ← hasOption 'n' then return (← get).status
    let status ← Runner.step (commands n) tested c
    modify ({ · with status })
    return status

/-- How deep commands can stand inside each other. -/
def depthLimit : Nat := 2000

/-- The runner of scripts. -/
def runner : Runner :=
  commands depthLimit

end CallAtlas.Shell
