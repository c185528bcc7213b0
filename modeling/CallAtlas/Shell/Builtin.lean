import CallAtlas.Shell.Condition
import CallAtlas.Shell.Expansion
import CallAtlas.Shell.Format
import CallAtlas.Shell.Parser

/-!
# The commands of the shell itself

The shell knows some commands that run no others : those that write text, ask conditions, read
lines, and change the state of the shell. A special one ends the shell when it fails.
-/

namespace CallAtlas.Shell.Builtin

open CallAtlas.Text Effect

/-- Write to the standard output. -/
def out (name : String) (b : ByteArray) : Effect Nat := do
  if ← write 1 b then return 0
  complain (name ++ ": I/O error")
  return 1

/-- Write a text to the standard output. -/
def outText (name s : String) : Effect Nat :=
  out name s.toUTF8

/-- The number that an argument gives. -/
def number (s : String) : Effect Nat := do
  if s.isEmpty || !s.toList.all Decimal.isDigit then fail ("Illegal number: " ++ s)
  let n := Nat.ofDigitChars 10 s.toList 0
  if 2147483647 < n then fail ("Illegal number: " ++ s)
  return n

/-- Write a format with arguments. -/
def printf (args : List String) : Effect Nat := do
  let args ← match args with
    | "--" :: rest => pure rest
    | first :: _ =>
      match first.toList with
      | '-' :: c :: _ => fail ("Illegal option -" ++ c.toString)
      | _ => pure args
    | [] => pure []
  match args with
  | [] => fail "usage: printf format [arg ...]"
  | text :: args =>
    let (p, status) := Format.format text args
    p.complaints.forM complain
    let written ← out "printf" (Format.ofBytes p.written)
    return max status written

/-- Ask a condition. -/
def test (words : List String) : Effect Nat := do
  match Condition.holds (← get).files words with
  | .ok true => return 0
  | .ok false => return 1
  | .error complaint => fail complaint

/-- Ask a condition in brackets. -/
def bracket (words : List String) : Effect Nat := do
  if words.getLast? != some "]" then fail "missing ]"
  test words.dropLast

/-! ## Control -/

/-- End the shell. -/
def exit (args : List String) : Effect Nat := do
  match args with
  | [] => throw (.exits ((← get).status % 256))
  | s :: _ => throw (.exits ((← number s) % 256))

/-- End a function. -/
def leaveFunction (args : List String) : Effect Nat := do
  match args with
  | [] => throw (.returns (← get).status)
  | s :: _ => throw (.returns (← number s))

/-- The number of loops that an argument asks for, at most as many as there are. -/
def loopCount (args : List String) : Effect Nat := do
  match args with
  | [] => return min 1 (← get).loops
  | s :: _ =>
    let n ← number s
    if n == 0 then fail ("Illegal number: " ++ s)
    return min n (← get).loops

/-- Leave loops. -/
def leaveLoops (args : List String) : Effect Nat := do
  match ← loopCount args with
  | 0 => return 0
  | n => throw (.leaves n)

/-- Go on with the next round of a loop. -/
def nextRound (args : List String) : Effect Nat := do
  match ← loopCount args with
  | 0 => return 0
  | n => throw (.continues n)

/-- Drop arguments in front. -/
def shift (args : List String) : Effect Nat := do
  let n ← match args with
    | [] => pure 1
    | s :: _ => number s
  let s ← get
  if s.arguments.length < n then fail "can't shift that many"
  set { s with arguments := s.arguments.drop n }
  return 0

/-! ## Signals -/

/-- The names of signals. -/
def signals : List (String × Nat) :=
  [("EXIT", 0), ("HUP", 1), ("INT", 2), ("QUIT", 3), ("ILL", 4), ("TRAP", 5), ("ABRT", 6),
    ("BUS", 7), ("FPE", 8), ("KILL", 9), ("USR1", 10), ("SEGV", 11), ("USR2", 12), ("PIPE", 13),
    ("ALRM", 14), ("TERM", 15), ("STKFLT", 16), ("CHLD", 17), ("CONT", 18), ("STOP", 19),
    ("TSTP", 20), ("TTIN", 21), ("TTOU", 22), ("URG", 23), ("XCPU", 24), ("XFSZ", 25),
    ("VTALRM", 26), ("PROF", 27), ("WINCH", 28), ("IO", 29), ("PWR", 30), ("SYS", 31)]

/-- The signals that a process does not notice. -/
def unnoticed : List Nat := [0, 17, 18, 23, 28]

/-- The signal that a name or a number gives. -/
def signal? (s : String) : Option Nat :=
  if !s.isEmpty && s.toList.all Decimal.isDigit then some (Nat.ofDigitChars 10 s.toList 0)
  else signals.lookup s

/-- Send a signal to processes. -/
def send (signal : Nat) (processes : List String) : Effect Nat := do
  let mut status := 0
  for p in processes do
    if p == toString processNumber then
      match (← get).traps.lookup signal with
      | some _ => if signal != 9 then modify fun s => { s with pending := s.pending ++ [signal] }
      | none => pure ()
      if !unnoticed.contains signal && ((← get).traps.lookup signal).isNone || signal == 9 then
        throw (.killed signal)
    else if p.toList.all Decimal.isDigit then
      complain "No such process\n"
      status := 1
    else fail ("Illegal number: " ++ p)
  return status

/-- Send a signal. -/
def kill (args : List String) : Effect Nat := do
  match args with
  | [] =>
    fail "Usage: kill [-s sigspec | -signum | -sigspec] [pid | job]... or\nkill -l [exitstatus]"
  | "-s" :: name :: rest =>
    match signal? name with
    | some n => send n rest
    | none => fail ("invalid signal number or name: " ++ name)
  | "--" :: rest => send 15 rest
  | "-l" :: _ =>
    outText "kill"
      (String.join ((signals.drop 1).map fun (name, n) => toString n ++ " " ++ name ++ "\n"))
  | first :: rest =>
    match first.toList with
    | '-' :: name =>
      match signal? (String.ofList name) with
      | some n => send n rest
      | none => fail ("Illegal option -" ++ String.ofList (name.take 1))
    | _ => send 15 args

/-- Say what to do on a signal. -/
def trap (args : List String) : Effect Nat := do
  let (action, names) := match args with
    | [] => (none, [])
    | [name] => (none, [name])
    | a :: names => (if a == "-" then none else some a, names)
  for name in names do
    match signal? name with
    | none => fail (name ++ ": bad trap")
    | some n =>
      modify fun s => { s with
        traps := (action.toList.map (n, ·)) ++ s.traps.filter (·.1 != n) }
  return 0

/-! ## Options and variables -/

/-- The letters and names of the options, in their order. -/
def optionNames : List (Char × String) :=
  [('e', "errexit"), ('f', "noglob"), ('I', "ignoreeof"), ('m', "monitor"), ('n', "noexec"),
    ('s', "stdin"), ('i', "interactive"), ('x', "xtrace"), ('v', "verbose"), ('V', "vi"),
    ('E', "emacs"), ('C', "noclobber"), ('a', "allexport"), ('b', "notify"), ('u', "nounset")]

/-- Set or clear an option. -/
def setOption (on : Bool) (c : Char) : Effect Unit :=
  modify fun s => { s with
    options := (optionNames.map (·.1)).filter fun d => if d == c then on else s.options.contains d }

/-- Set options by their letters. One letter takes the name of an option from the arguments. -/
def setLetters (sign : Char) : List Char → List String → Effect (List String)
  | [], rest => return rest
  | 'o' :: cs, rest => do
    match rest with
    | [] => return []
    | name :: rest =>
      match optionNames.find? (·.2 == name) with
      | some (c, _) => setOption (sign == '-') c
      | none => fail ("Illegal option " ++ sign.toString ++ "o " ++ name)
      setLetters sign cs rest
  | c :: cs, rest => do
    if (optionNames.lookup c).isNone then fail ("Illegal option " ++ sign.toString ++ c.toString)
    setOption (sign == '-') c
    setLetters sign cs rest

/-- Set options that stand in front of arguments, at most a number of them. -/
def setOptionsUpTo : Nat → List String → Effect (Option (List String))
  | 0, _ => return none
  | _, [] => return none
  | _, "--" :: rest => return some rest
  | _, "-" :: rest => return if rest.isEmpty then none else some rest
  | n + 1, word :: rest => do
    match word.toList with
    | sign :: c :: cs =>
      if sign == '-' || sign == '+' then setOptionsUpTo n (← setLetters sign (c :: cs) rest)
      else return some (word :: rest)
    | _ => return some (word :: rest)

/-- Set options that stand in front of arguments. Give the arguments, if there are any or a double
dash stands before them. -/
def setOptions (args : List String) : Effect (Option (List String)) :=
  setOptionsUpTo (args.length + 1) args

/-- Set options and arguments. -/
def configure (args : List String) : Effect Nat := do
  match ← setOptions args with
  | some arguments => modify ({ · with arguments })
  | none => pure ()
  return 0

/-- The name and the value of an argument that assigns. -/
def assignment (s : String) : String × Option String :=
  let name := s.toList.takeWhile (· != '=')
  match s.toList.drop name.length with
  | _ :: value => (String.ofList name, some (String.ofList value))
  | [] => (s, none)

/-- Change variables, with values if they are given. -/
def declare (change : Variable → Variable) (args : List String) : Effect Nat := do
  for a in args do
    if a != "-p" then
      let (name, value) := assignment a
      if !isName name then fail (name ++ ": bad variable name")
      if let some v := value then assign name v
      putVariable name (some (change ((← lookUp? name).getD {})))
  return 0

/-- Make variables local to a function. -/
def declareLocal (args : List String) : Effect Nat := do
  match (← get).locals with
  | [] => fail "not in a function"
  | _ =>
    for a in args do
      let (name, value) := assignment a
      if !isName name then fail (name ++ ": bad variable name")
      let old ← lookUp? name
      modify fun s => { s with
        locals := match s.locals with
          | frame :: frames => ((name, old) :: frame) :: frames
          | [] => [] }
      if let some v := value then assign name v
    return 0

/-- Forget variables, or functions. -/
def unset (args : List String) : Effect Nat := do
  let (functions, names) := match args with
    | "-f" :: names => (true, names)
    | "-v" :: names => (false, names)
    | names => (false, names)
  for name in names do
    if functions then modify fun s => { s with functions := s.functions.filter (·.1 != name) }
    else
      if !isName name then fail (name ++ ": bad variable name")
      if ((← lookUp? name).getD {}).readOnly then fail (name ++ ": is read only")
      putVariable name none
  return 0

/-! ## Directories -/

/-- The path of a place. -/
def pathOf (place : List String) : String :=
  "/" ++ "/".intercalate place

/-- Change the working directory. -/
def cd (args : List String) : Effect Nat := do
  let args := args.filter fun a => !(["-L", "-P", "--"].contains a)
  let here := pathOf (← get).files.cwd
  let target ← match args with
    | [] => pure ((← value? "HOME").getD "")
    | "-" :: _ => pure ((← value? "OLDPWD").getD here)
    | path :: _ => pure (if path.isEmpty then "." else path)
  let fs := (← get).files
  match fs.locate target with
  | .ok place =>
    if !fs.isDirectory target then fail ("can't cd to " ++ target)
    modify ({ · with files := { fs with cwd := place } })
    assign "OLDPWD" here
    assign "PWD" (pathOf place)
    if args == ["-"] then outText "cd" (pathOf place ++ "\n") else return 0
  | .error _ => fail ("can't cd to " ++ target)

/-! ## Reading lines -/

/-- A line of characters, each with whether a backslash kept it from its meaning. A backslash at the
end joins lines. -/
def logicalLine (raw : Bool) : Nat → Effect (List (Char × Bool) × Bool)
  | 0 => return ([], false)
  | n + 1 => do
    let (bytes, ended) ← readLine 0
    let cs := (Lossy.decode (Format.ofBytes (bytes.filter (· != 0)))).toList
    if raw then return (cs.map (·, false), ended)
    let (line, unfinished) := cs.foldl (fun (line, escaped) c =>
      if escaped then ((c, true) :: line, false)
      else if c == '\\' then (line, true)
      else ((c, false) :: line, false)) (([] : List (Char × Bool)), false)
    if unfinished && ended then
      let (more, ended) ← logicalLine raw n
      return (line.reverse ++ more, ended)
    return (line.reverse, ended)

/-- The parts of a line, at most a number of them. The last one is all the rest. -/
def lineParts (dividers : List Char) : Nat → List (Char × Bool) → List (List (Char × Bool))
  | 0, _ => []
  | n + 1, cs =>
    let isDivider (c : Char × Bool) : Bool := !c.2 && dividers.contains c.1
    let isBlank (c : Char × Bool) : Bool :=
      isDivider c && (c.1 == ' ' || c.1 == '\t' || c.1 == '\n')
    let cs := cs.dropWhile isBlank
    match n with
    | 0 => [(cs.reverse.dropWhile isBlank).reverse]
    | n + 1 =>
      let part := cs.takeWhile (!isDivider ·)
      let rest := (cs.drop part.length).dropWhile isBlank
      let rest := match rest with
        | c :: more => if isDivider c then more else rest
        | [] => []
      part :: lineParts dividers (n + 1) rest

/-- Read a line into variables. -/
def readInto (args : List String) : Effect Nat := do
  let raw := args.head? == some "-r"
  let args := if raw then args.tail else args
  let names := match args with
    | "-p" :: _ :: names => names
    | names => names
  if names.isEmpty then fail "arg count"
  let (line, ended) ← logicalLine raw loopLimit
  let parts := lineParts (← separators).toList names.length line
  for (name, i) in names.zipIdx do
    if !isName name then fail (name ++ ": bad variable name")
    assign name (String.ofList ((parts.getD i []).map (·.1)))
  return if ended then 0 else 1

/-! ## Reading options -/

/-- Whether an option letter is known, and whether it takes an argument. -/
def optionLetter (letters : List Char) (c : Char) : Option Bool :=
  match letters with
  | [] => none
  | d :: ':' :: rest => if c == d then some true else optionLetter rest c
  | d :: rest => if c == d then some false else optionLetter rest c

/-- Read the next option of arguments. -/
def getopts (args : List String) : Effect Nat := do
  match args with
  | letters :: name :: given =>
    let s ← get
    let arguments := if given.isEmpty then s.arguments else given
    let index := max 1 ((((← value? "OPTIND").map (·.toList)).bind Decimal.word?).getD 1)
    let (index, started) :=
      if arguments.length + 1 < index then (1, 0) else (index, s.optionPosition)
    let quiet := letters.startsWith ":"
    let letters := if quiet then letters.toList.tail else letters.toList
    -- An argument that was begun before, or a new one.
    let open? := if started == 0 then [] else (arguments.getD (index - 2) "").toList.drop started
    let (index, rest) := match open? with
      | [] =>
        match (arguments.getD (index - 1) "").toList with
        | '-' :: '-' :: [] => (index + 1, [])
        | '-' :: c :: cs => (index + 1, c :: cs)
        | _ => (index, [])
      | cs => (index, cs)
    let finish (index position : Nat) (letter : String) (status : Nat) : Effect Nat := do
      assign "OPTIND" (toString index)
      modify ({ · with optionPosition := position })
      assign name letter
      return status
    match rest with
    | [] => finish index 0 "?" 1
    | c :: cs =>
      let position := (arguments.getD (index - 2) "").length - cs.length
      let position := if cs.isEmpty then 0 else position
      match optionLetter letters c with
      | none =>
        if quiet then assign "OPTARG" c.toString
        else
          writeText 2 ("Illegal option -" ++ c.toString ++ "\n")
          putVariable "OPTARG" none
        finish index position "?" 0
      | some false =>
        assign "OPTARG" ""
        finish index position c.toString 0
      | some true =>
        match if cs.isEmpty then arguments[index - 1]? else some (String.ofList cs) with
        | some value =>
          assign "OPTARG" value
          finish (if cs.isEmpty then index + 1 else index) 0 c.toString 0
        | none =>
          if quiet then
            assign "OPTARG" c.toString
            finish index 0 ":" 0
          else
            writeText 2 ("No arg for -" ++ c.toString ++ " option\n")
            putVariable "OPTARG" none
            finish index 0 "?" 0
  | _ => fail "Usage: getopts optstring var [arg]"

/-- Look for programs. -/
def hash (names : List String) : Effect Nat := do
  let missing := names.filter fun n => !System.programs.contains n
  missing.forM fun n => complain (n ++ ": not found")
  return if missing.isEmpty then 0 else 1

/-! ## All of them -/

/-- The commands that end the shell when they fail. -/
def special : List (String × (List String → Effect Nat)) :=
  [(":", fun _ => return 0), ("break", leaveLoops), ("continue", nextRound), ("exit", exit),
    ("return", leaveFunction), ("export", declare ({ · with exported := true })),
    ("readonly", declare ({ · with readOnly := true })), ("set", configure),
    ("local", declareLocal), ("shift", shift), ("times", fun _ => return 0), ("trap", trap),
    ("unset", unset)]

/-- The other commands. -/
def regular : List (String × (List String → Effect Nat)) :=
  [("true", fun _ => return 0), ("false", fun _ => return 1),
    ("echo", fun args => out "echo" (Format.echo args)), ("printf", printf), ("test", test),
    ("[", bracket), ("read", readInto), ("cd", cd), ("chdir", cd),
    ("pwd", fun _ => do outText "pwd" (pathOf (← get).files.cwd ++ "\n")), ("getopts", getopts),
    ("kill", kill), ("wait", fun _ => return 0),
    ("umask", fun args => if args.isEmpty then outText "umask" "0022\n" else return 0),
    ("ulimit", fun _ => outText "ulimit" "unlimited\n"), ("hash", hash),
    ("jobs", fun _ => return 0), ("alias", fun _ => return 0), ("unalias", fun _ => return 0)]

/-- The commands that run others. -/
def runners : List String :=
  [".", "eval", "exec", "command", "type"]

/-- Whether a name is that of a command of the shell. -/
def isBuiltin (name : String) : Bool :=
  (special.lookup name).isSome || (regular.lookup name).isSome || runners.contains name

end CallAtlas.Shell.Builtin
