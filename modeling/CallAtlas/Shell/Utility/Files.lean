import CallAtlas.Shell.Arithmetic
import CallAtlas.Shell.Utility.Options

/-!
# Utilities that work on files and paths

These make, copy, move, list and remove files, and take paths apart.
-/

namespace CallAtlas.Shell.Utility

open CallAtlas.Text Effect

/-- Change files, or complain. -/
def attempt (name : String) (change : FileSystem → Except OsError FileSystem)
    (complaint : OsError → String) :
    Effect Nat := do
  match change (← get).files with
  | .ok files => modify ({ · with files }); return 0
  | .error e => complain name (complaint e); return 1

/-- Do something with each operand. -/
def each (operands : List String) (run : String → Effect Nat) : Effect Nat := do
  let mut status := 0
  for o in operands do
    status := max status (← run o)
  return status

/-- Complain when operands are missing. -/
def needing (name : String) (operands : List String) (run : Effect Nat) : Effect Nat :=
  if operands.isEmpty then misused name "missing operand" 1 else run

/-- Make directories. -/
def mkdir (name : String) (args : List String) : Effect Nat :=
  withOptions name "m:pvZ" 1 args fun o =>
    needing name o.operands (each o.operands fun path =>
      attempt name (if o.has 'p' then (·.makeDirectories path) else (·.makeDirectory path))
        fun e => "cannot create directory '" ++ path ++ "': " ++ e.text)

/-- Make files that are not there. -/
def touch (name : String) (args : List String) : Effect Nat :=
  withOptions name "acd:fhmr:t:" 1 args fun o =>
    if o.operands.isEmpty then misused name "missing file operand" 1
    else each o.operands fun path =>
      attempt name (fun fs =>
        match fs.find path with
        | .ok _ => .ok fs
        | .error .notFound => if o.has 'c' then .ok fs else fs.write path .empty
        | .error e => .error e)
        fun e => "cannot touch '" ++ path ++ "': " ++
          (if e == .isDirectory then OsError.notFound.text else e.text)

/-- Remove files, and directories if asked. -/
def rm (name : String) (args : List String) : Effect Nat :=
  withOptions name "dfiIrRv" 1 args fun o =>
    if o.operands.isEmpty && o.has 'f' then return 0
    else needing name o.operands (each o.operands fun path => do
      let fs := (← get).files
      match fs.find path, fs.locate path with
      | .ok (.directory _ _), .ok place =>
        if o.has 'r' || o.has 'R' then
          modify ({ · with files := fs.removeAt place })
          return 0
        complain name ("cannot remove '" ++ path ++ "': Is a directory")
        return 1
      | .ok (.file _), .ok place =>
        modify ({ · with files := fs.removeAt place })
        return 0
      | .error e, _ =>
        if o.has 'f' && (e == .notFound || e == .notDirectory) then return 0
        complain name ("cannot remove '" ++ path ++ "': " ++ e.text)
        return 1
      | _, .error e =>
        complain name ("cannot remove '" ++ path ++ "': " ++ e.text)
        return 1)

/-- Remove empty directories. -/
def rmdir (name : String) (args : List String) : Effect Nat :=
  withOptions name "pv" 1 args fun o =>
    needing name o.operands (each o.operands fun path => do
      let fs := (← get).files
      match fs.find path, fs.locate path with
      | .ok (.directory _ []), .ok place => modify ({ · with files := fs.removeAt place }); return 0
      | .ok (.directory _ _), _ =>
        complain name ("failed to remove '" ++ path ++ "': Directory not empty"); return 1
      | .ok (.file _), _ =>
        complain name ("failed to remove '" ++ path ++ "': Not a directory"); return 1
      | .error e, _ => complain name ("failed to remove '" ++ path ++ "': " ++ e.text); return 1)

/-- The last name of a path. -/
def lastName (path : String) : String :=
  ((Path.parts path).filter (· != "")).getLastD "/"

/-- Where a copy of a path goes : into a directory, or to the path itself. -/
def destination (fs : FileSystem) (source target : String) : String :=
  if fs.isDirectory target then Path.join target (lastName source) else target

/-- Put a tree where a path leads. -/
def put (fs : FileSystem) (path : String) (t : Tree) : Except OsError FileSystem :=
  match t with
  | .file f =>
    match fs.write path f.bytes with
    | .error e => .error e
    | .ok fs =>
      match fs.locate path with
      | .error e => .error e
      | .ok place => .ok (fs.putFile place f)
  | .directory _ _ =>
    match fs.makeDirectory path with
    | .error e => .error e
    | .ok fs =>
      match fs.locate path with
      | .error e => .error e
      | .ok place => .ok { fs with root := fs.root.put place t }

/-- Copy or move paths. -/
def transfer (name : String) (moves recursive : Bool) (operands : List String) : Effect Nat := do
  match operands.reverse with
  | [] => misused name "missing file operand" 1
  | [path] => misused name ("missing destination file operand after '" ++ path ++ "'") 1
  | target :: sources =>
    if 1 < sources.length && !(← get).files.isDirectory target then
      complain name ("target '" ++ target ++ "'" ++ ": " ++ OsError.notDirectory.text)
      return 1
    each sources.reverse fun source => do
      let fs := (← get).files
      let goal := destination fs source target
      match fs.find source, fs.locate source with
      | .error e, _ => complain name ("cannot stat '" ++ source ++ "': " ++ e.text); return 1
      | _, .error e => complain name ("cannot stat '" ++ source ++ "': " ++ e.text); return 1
      | .ok t, .ok place =>
        if t.isDirectory && !moves && !recursive then
          complain name ("-r not specified; omitting directory '" ++ source ++ "'")
          return 1
        if (fs.locate goal).toOption == some place then
          complain name ("'" ++ source ++ "' and '" ++ goal ++ "' are the same file")
          return 1
        match put fs goal t with
        | .error e =>
          if moves then
            complain name ("cannot move '" ++ source ++ "' to '" ++ goal ++ "': " ++ e.text)
          else complain name ("cannot create regular file '" ++ goal ++ "': " ++ e.text)
          return 1
        | .ok fs =>
          modify ({ · with files := if moves then fs.removeAt place else fs })
          return 0

/-- Copy files. -/
def cp (name : String) (args : List String) : Effect Nat :=
  withOptions name "abdfHilLnpPrRsS:t:Tuvx" 1 args fun o =>
    transfer name false (o.has 'r' || o.has 'R' || o.has 'a') o.operands

/-- Move files. -/
def mv (name : String) (args : List String) : Effect Nat :=
  withOptions name "bfinS:t:TuvZ" 1 args fun o => transfer name true true o.operands

/-- Set whether files can be run. -/
def chmod (name : String) (args : List String) : Effect Nat := do
  let isOption (a : String) : Bool :=
    match a.toList with
    | '-' :: c :: _ => !"cfvRrwxXst".toList.contains c
    | _ => false
  if let some a := args.find? isOption then
    return ← misused name
      ("invalid option -- '" ++ String.ofList ((a.toList.drop 1).take 1) ++ "'") 1
  match args with
  | [] => misused name "missing operand" 1
  | [mode] => misused name ("missing operand after '" ++ mode ++ "'") 1
  | mode :: paths =>
    let change (old : Bool) : Bool :=
      match mode.toList.getLast?, mode.toList.filter fun c => c == '+' || c == '-' || c == '=' with
      | some 'x', ['+'] => true
      | some 'x', ['-'] => false
      | _, [] => (mode.toList.filter Decimal.isDigit).any fun c => Decimal.digit c % 2 == 1
      | _, _ => old
    each paths fun path => do
      let fs := (← get).files
      match fs.find path, fs.locate path with
      | .ok (.file f), .ok place =>
        let changed : Tree := .file { f with executable := change f.executable }
        modify ({ · with files := { fs with root := fs.root.put place changed } })
        return 0
      | .ok _, _ => return 0
      | .error e, _ => complain name ("cannot access '" ++ path ++ "': " ++ e.text); return 1

/-- List files and directories. -/
def ls (name : String) (args : List String) : Effect Nat :=
  withOptions name "aAbBcCdfFgGhHiI:klLmnNopqQrRsStT:uUvw:xXZ1" 2 args fun o => do
    let fs := (← get).files
    let operands := if o.operands.isEmpty then ["."] else o.operands
    let sorted (names : List String) : List String := names.mergeSort fun a b => a ≤ b
    let mut status := 0
    for path in operands do
      if (fs.find path).toOption.isNone then
        complain name ("cannot access '" ++ path ++ "': " ++
          match fs.find path with
          | .error e => e.text
          | .ok _ => "")
        status := 2
    let isListed (path : String) : Bool := fs.isDirectory path && !o.has 'd'
    let alone :=
      sorted (operands.filter fun path => (fs.find path).toOption.isSome && !isListed path)
    let listed := sorted (operands.filter isListed)
    outText (String.join (alone.map (· ++ "\n")))
    let mut first := alone.isEmpty
    for path in listed do
      if 1 < operands.length then outText ((if first then "" else "\n") ++ path ++ ":\n")
      first := false
      let names := match fs.find path with
        | .ok t => t.entries.map (·.1)
        | .error _ => []
      let names := if o.has 'a' then "." :: ".." :: names
        else if o.has 'A' then names
        else names.filter fun n => !n.startsWith "."
      outText (String.join ((sorted names).map (· ++ "\n")))
    return status

/-- Copy blocks. Only the names of the files are looked at, and the size and number of blocks. -/
def dd (name : String) (args : List String) : Effect Nat :=
  withoutOptions name args fun args => do
  let operand (key : String) : Option String := args.findSome? fun a =>
    if a.startsWith (key ++ "=") then some (String.ofList (a.toList.drop (key.length + 1)))
    else none
  let content ← match operand "if" with
    | none => pure (.ok (← readAll 0))
    | some path => readFile path
  match content with
  | .error e =>
    complain name ("failed to open '" ++ (operand "if").getD "" ++ "': " ++ e.text); return 1
  | .ok b =>
    let size := ((operand "bs").bind (·.toNat?)).getD 512
    let b := match (operand "count").bind (·.toNat?) with
      | some n => b.extract 0 (n * size)
      | none => b
    match operand "of" with
    | none =>
      let _ ← write 1 b
      return 0
    | some path =>
      match ← openFile path .writing with
      | .ok n => writeTo n b; return 0
      | .error e => complain name ("failed to open '" ++ path ++ "': " ++ e.text); return 1

/-! ## Paths -/

/-- The last name of a path, without an ending. -/
def basename (name : String) (args : List String) : Effect Nat :=
  withoutOptions name args fun operands => do
  match operands with
  | [] => misused name "missing operand" 1
  | path :: rest =>
    let last := if path.isEmpty then "" else lastName path
    let ending := rest.headD ""
    let shorter := if last.endsWith ending && last != ending then
      String.ofList (last.toList.take (last.length - ending.length)) else last
    outText (shorter ++ "\n")
    return 0

/-- The directory of a path. -/
def directoryOf (path : String) : String :=
  let trimmed := path.toList.reverse.dropWhile (· == '/')
  if trimmed.isEmpty then (if path.isEmpty then "." else "/")
  else if !trimmed.contains '/' then "."
  else
    let rest := (trimmed.dropWhile (· != '/')).dropWhile (· == '/')
    if rest.isEmpty then "/" else String.ofList rest.reverse

/-- The directories of paths. -/
def dirname (name : String) (args : List String) : Effect Nat :=
  withoutOptions name args fun operands =>
    needing name operands do
      outText (String.join (operands.map fun a => directoryOf a ++ "\n"))
      return 0

/-- The first name of a sequence that is not taken. -/
def freeName (taken : List String) : Nat → String
  | 0 => "tmp.0000000000"
  | n + 1 =>
    let digits := toString n
    let name := "tmp." ++ String.ofList (List.replicate (10 - digits.length) '0') ++ digits
    if taken.contains name then freeName taken n else name

/-- Make a file or a directory for a while, and tell its path. -/
def mktemp (name : String) (args : List String) : Effect Nat :=
  withOptions name "dqtu" 1 args fun o => do
    let fs := (← get).files
    let taken := match fs.find System.temporary with
      | .ok t => t.entries.map (·.1)
      | .error _ => []
    let path := Path.join System.temporary (freeName taken (taken.length + 1))
    let status ← attempt name (fun fs => do
      let fs ← fs.makeDirectories System.temporary
      if o.has 'd' then fs.makeDirectory path else fs.write path .empty) fun e => e.text
    outText (path ++ "\n")
    return status

/-- The path of the working directory. -/
def pwd (name : String) (args : List String) : Effect Nat :=
  withOptions name "LP" 1 args fun _ => do
    outText ("/" ++ "/".intercalate (← get).files.cwd ++ "\n")
    return 0

end CallAtlas.Shell.Utility
