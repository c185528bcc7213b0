import CallAtlas.Shell.Utility.Files
import CallAtlas.Shell.Utility.Search
import CallAtlas.Shell.Utility.Text

/-!
# Programs that are installed

`utilities` says what the installed programs do, apart from those that run others. What a path runs
is found by `Program.load` : a program itself, or for a script the interpreter that its first line
names.
-/

namespace CallAtlas.Shell

open Effect

/-- The utilities, by name. Each is run with the name that it was called by and its arguments. -/
def utilities : List (String × (String → List String → Effect Nat)) :=
  [("true", fun _ _ => return 0), ("false", fun _ _ => return 1), ("sleep", Utility.sleep),
    ("echo", Utility.echo), ("printf", Utility.printf), ("test", Utility.test),
    ("[", Utility.bracket), ("pwd", Utility.pwd), ("cat", Utility.cat), ("tee", Utility.tee),
    ("wc", Utility.wc), ("tr", Utility.tr), ("head", Utility.head), ("tail", Utility.tail),
    ("cut", Utility.cut), ("sort", Utility.sort), ("uniq", Utility.uniq), ("tac", Utility.tac),
    ("rev", Utility.rev), ("seq", Utility.seq), ("mkdir", Utility.mkdir), ("touch", Utility.touch),
    ("rm", Utility.rm), ("rmdir", Utility.rmdir), ("cp", Utility.cp), ("mv", Utility.mv),
    ("chmod", Utility.chmod), ("ls", Utility.ls), ("dd", Utility.dd),
    ("basename", Utility.basename), ("dirname", Utility.dirname), ("grep", Utility.grep),
    ("sed", Utility.sed), ("expr", Utility.expr), ("mktemp", Utility.mktemp)]

/-- A program that is run : the installed program, the name that it is called by, and
its arguments. -/
structure Loaded where
  program : String
  name : String
  arguments : List String

namespace Program

/-- The number of bytes of a script in which the name of its interpreter must end. -/
def firstLineLimit : Nat := 256

/-- The interpreter that a script names in its first line, and the argument for it. A script that
ends before it names one names its directory, which cannot be run. -/
def interpreter (text : List Char) : Except OsError (String × List String) :=
  match text with
  | '#' :: '!' :: rest =>
    let isBlank (c : Char) : Bool := c == ' ' || c == '\t'
    let whole := rest.takeWhile (· != '\n')
    let line := ((whole.dropWhile isBlank).reverse.dropWhile isBlank).reverse
    let path := line.takeWhile (!isBlank ·)
    let argument := (line.drop path.length).dropWhile isBlank
    let isCut := whole.length == rest.length && text.length == firstLineLimit
    if path.isEmpty && whole.length == rest.length && !isCut then .error .permissionDenied
    else if path.isEmpty ||
        (isCut && path.length == line.length &&
          line.length == (whole.dropWhile isBlank).length) then
      .error .notExecutable
    else .ok (String.ofList path, if argument.isEmpty then [] else [String.ofList argument])
  | _ => .error .notExecutable

/-- The number of interpreters that may be named one by another. -/
def interpreterLimit : Nat := 5

/-- The program that a path runs, under a name. A script is run by its interpreter. -/
def load (fs : FileSystem) : Nat → String → String → List String → Except OsError Loaded
  | 0, _, _, _ => .error .tooManyLinks
  | n + 1, path, name, arguments =>
    match System.programAt? path with
    | some program => .ok { program, name, arguments }
    | none =>
      if System.isOther path then .error .permissionDenied
      else if System.files.any fun f => path.startsWith (f ++ "/") then .error .notDirectory
      else
        match fs.find path with
        | .error e => .error e
        | .ok (.directory _ _) => .error .permissionDenied
        | .ok (.file f) =>
          if !f.executable then .error .permissionDenied
          else
            match interpreter (Text.Lossy.decode (f.bytes.extract 0 firstLineLimit)).toList with
            | .error e => .error e
            | .ok (other, first) => load fs n other other (first ++ path :: arguments)

/-- What a name or a path runs. A name without a separator is looked up among the programs that
are installed. -/
def find (fs : FileSystem) (name : String) (arguments : List String) : Except OsError Loaded :=
  if name.toList.contains '/' then load fs interpreterLimit name name arguments
  else if FileSystem.nameLimit < name.utf8ByteSize then .error .nameTooLong
  else if System.programs.contains name then .ok { program := name, name, arguments }
  else .error .notFound

end Program

end CallAtlas.Shell
