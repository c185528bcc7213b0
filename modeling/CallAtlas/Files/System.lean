import CallAtlas.Files.Path
import CallAtlas.Files.Tree

/-!
# The file system

A `FileSystem` is a tree with a working directory. A path leads from the root or from the working
directory, step by step : every step but the last must be a directory, and a path that ends with a
separator leads to a directory. Names and paths are limited in length, and no path holds a null
character. What goes wrong on the way is an `OsError`. Changes are also listed, so that they can be
made again elsewhere.
-/

namespace CallAtlas

/-- What goes wrong with files. -/
inductive OsError where
  | notFound
  | permissionDenied
  | exists
  | notDirectory
  | isDirectory
  | brokenPipe
  | nameTooLong
  | tooManyLinks
  | notExecutable
  | notText
  | nullInPath
  | nullInArgument
  deriving DecidableEq, Repr

namespace OsError

/-- The error in words. -/
def text : OsError → String
  | .notFound => "No such file or directory"
  | .permissionDenied => "Permission denied"
  | .exists => "File exists"
  | .notDirectory => "Not a directory"
  | .isDirectory => "Is a directory"
  | .brokenPipe => "Broken pipe"
  | .nameTooLong => "File name too long"
  | .tooManyLinks => "Too many levels of symbolic links"
  | .notExecutable => "Exec format error"
  | .notText => "stream did not contain valid UTF-8"
  | .nullInPath => "file name contained an unexpected NUL byte"
  | .nullInArgument => "nul byte found in provided data"

/-- The number of an error, for those that the system reports. -/
def number? : OsError → Option Nat
  | .notFound => some 2
  | .permissionDenied => some 13
  | .exists => some 17
  | .notDirectory => some 20
  | .isDirectory => some 21
  | .brokenPipe => some 32
  | .nameTooLong => some 36
  | .tooManyLinks => some 40
  | .notExecutable => some 8
  | .notText => none
  | .nullInPath => none
  | .nullInArgument => none

/-- The wording of an error. -/
def message (e : OsError) : String :=
  match e.number? with
  | some n => e.text ++ " (os error " ++ toString n ++ ")"
  | none => e.text

end OsError

/-- A change at a place. -/
inductive Change where
  | wrote (place : List String) (bytes : ByteArray)
  | madeDirectory (place : List String)
  | removed (place : List String)

/-- A tree, the place of the working directory, and what was changed. -/
structure FileSystem where
  root : Tree := .emptyDirectory
  cwd : List String := []
  changes : List Change := []

namespace FileSystem

/-! ## Following paths -/

/-- The bytes that a name can have. -/
def nameLimit : Nat := 255

/-- The bytes that no path can have. -/
def pathLimit : Nat := 4096

/-- Follow the parts of a path from a place. -/
def follow (fs : FileSystem) : List String → List String → Except OsError (List String)
  | place, [] => .ok place
  | place, part :: parts =>
    match fs.root.at? place with
    | none => .error .notFound
    | some (.file _) => .error .notDirectory
    | some (.directory _ es) =>
      if part = "" || part = "." then follow fs place parts
      else if part = ".." then follow fs place.dropLast parts
      else if nameLimit < part.utf8ByteSize then .error .nameTooLong
      else if (es.lookup part).isSome then follow fs (place ++ [part]) parts
      else .error .notFound

/-- Where a path starts. -/
def start (fs : FileSystem) (path : String) : List String :=
  if path.startsWith "/" then [] else fs.cwd

/-- The place that a path leads to. -/
def locate (fs : FileSystem) (path : String) : Except OsError (List String) :=
  if path.toList.contains '\x00' then .error .nullInPath
  else if path.isEmpty then .error .notFound
  else if pathLimit ≤ path.utf8ByteSize then .error .nameTooLong
  else fs.follow (fs.start path) (Path.parts path)

/-- The tree that a path leads to. -/
def find (fs : FileSystem) (path : String) : Except OsError Tree :=
  match fs.locate path with
  | .error e => .error e
  | .ok place =>
    match fs.root.at? place with
    | none => .error .notFound
    | some found => .ok found

/-- Whether a path leads to a file. -/
def isFile (fs : FileSystem) (path : String) : Bool :=
  match fs.find path with
  | .ok (.file _) => true
  | _ => false

/-- Whether a path leads to a directory. -/
def isDirectory (fs : FileSystem) (path : String) : Bool :=
  match fs.find path with
  | .ok (.directory _ _) => true
  | _ => false

/-! ## Reading -/

/-- The content of the file at a path. -/
def read (fs : FileSystem) (path : String) : Except OsError ByteArray :=
  match fs.find path with
  | .error e => .error e
  | .ok (.file f) => .ok f.bytes
  | .ok (.directory _ _) => .error .isDirectory

/-- The text of the file at a path. -/
def readText (fs : FileSystem) (path : String) : Except OsError String :=
  match fs.read path with
  | .error e => .error e
  | .ok bytes =>
    match String.fromUTF8? bytes with
    | some s => .ok s
    | none => .error .notText

/-! ## Writing -/

/-- The place of a new entry : its directory must be there, and it needs a name. -/
def newPlace (fs : FileSystem) (path : String) : Except OsError (List String) :=
  let parts := Path.parts path
  if path.isEmpty then .error .notFound
  else
    match fs.follow (fs.start path) parts.dropLast with
    | .error e => .error e
    | .ok place =>
      match fs.root.at? place with
      | some (.directory _ _) =>
        let name := parts.getLastD ""
        if name = "" || name = "." || name = ".." then .error .isDirectory
        else .ok (place ++ [name])
      | some (.file _) => .error .notDirectory
      | none => .error .notFound

/-- Put a file at a place. -/
def putFile (fs : FileSystem) (place : List String) (f : File) : FileSystem :=
  { fs with root := fs.root.put place (.file f), changes := fs.changes ++ [.wrote place f.bytes] }

/-- Put a directory without entries at a place. -/
def putDirectory (fs : FileSystem) (place : List String) : FileSystem :=
  { fs with
    root := fs.root.put place .emptyDirectory, changes := fs.changes ++ [.madeDirectory place] }

/-- Remove what is at a place. -/
def removeAt (fs : FileSystem) (place : List String) : FileSystem :=
  { fs with root := fs.root.remove place, changes := fs.changes ++ [.removed place] }

/-- Write a file. A file that is there keeps its mode. -/
def write (fs : FileSystem) (path : String) (bytes : ByteArray) : Except OsError FileSystem :=
  match fs.locate path with
  | .ok place =>
    match fs.root.at? place with
    | some (.file f) => .ok (fs.putFile place { f with bytes })
    | _ => .error .isDirectory
  | .error .notFound => (fs.newPlace path).map (fs.putFile · { bytes })
  | .error e => .error e

/-- Make a directory in one that is there. Separators at the end of the path say nothing. -/
def makeDirectory (fs : FileSystem) (path : String) : Except OsError FileSystem :=
  match fs.locate path with
  | .ok _ => .error .exists
  | .error .notFound =>
    (fs.newPlace (String.ofList (path.toList.reverse.dropWhile (· == '/')).reverse)).map
      fs.putDirectory
  | .error e => .error e

/-- Make a directory. If the one that it stands in is missing, `parents` makes that first. A
directory that is there already will do. -/
def makeDirectoryAfter (fs : FileSystem) (path : String)
    (parents : FileSystem → Except OsError FileSystem) : Except OsError FileSystem :=
  let settle (fs : FileSystem) (e : OsError) : Except OsError FileSystem :=
    if fs.isDirectory path then .ok fs else .error e
  match fs.makeDirectory path with
  | .ok fs => .ok fs
  | .error .notFound =>
    match parents fs with
    | .error e => .error e
    | .ok fs =>
      match fs.makeDirectory path with
      | .ok fs => .ok fs
      | .error e => settle fs e
  | .error e => settle fs e

/-- Make the directory with the given steps, the last step first, and those that it stands in. -/
def makeDirectoriesAt : List Component → FileSystem → Except OsError FileSystem
  | [], fs => .ok fs
  | c :: front, fs =>
    fs.makeDirectoryAfter (Path.ofComponents (c :: front).reverse) (makeDirectoriesAt front)

/-- Make a directory and the directories that it stands in. -/
def makeDirectories (fs : FileSystem) (path : String) : Except OsError FileSystem :=
  if path.isEmpty then .ok fs
  else fs.makeDirectoryAfter path (makeDirectoriesAt (Path.components path).reverse.tail)

end FileSystem

end CallAtlas
