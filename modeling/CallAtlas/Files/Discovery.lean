import CallAtlas.Catalog.Rows
import CallAtlas.Files.System
import CallAtlas.Warning

/-!
# Finding sources

`Discovery.sources` finds the Rust files below a root, entries in the order of their names and
directories depth first, or takes the root itself if it is a file. Directories named `target` or
`.git` are passed over. Each source has a dotted import path : the package, the directories below
the root, and the name of the file without its extension. The first of two files with one import
path keeps it.
-/

namespace CallAtlas

/-- Where sources are looked for, and the package that they belong to. -/
structure Discovery where
  root : String
  package : String
  deriving DecidableEq, Repr

/-- Why no sources can be had. -/
inductive DiscoveryError where
  | missing (root : String)
  | unreadable (directory : String)
  deriving DecidableEq, Repr

/-- The wording of an error. -/
def DiscoveryError.message : DiscoveryError → String
  | .missing root => "Source path not found: " ++ root
  | .unreadable directory =>
    "Failed to read directory " ++ directory ++ ": " ++ OsError.permissionDenied.message

/-- Rust files in order, and what was passed over with a warning. -/
structure Found where
  files : List (String × File) := []
  warnings : List Warning := []

namespace Found

/-- One after another. -/
def append (a b : Found) : Found :=
  ⟨a.files ++ b.files, a.warnings ++ b.warnings⟩

/-- What was found under each name, in the order of the names. -/
def inOrder (parts : List (String × Found)) : Found :=
  (parts.mergeSort fun a b => a.1 ≤ b.1).foldl (fun found part => found.append part.2) {}

end Found

namespace Discovery

/-! ## Import paths -/

/-- The package of a root without a given one : the name of the directory, or that of the file
without its extension. -/
def defaultPackage (fs : FileSystem) (root : String) : String :=
  match Path.fileName? root with
  | none => "crate"
  | some name => if fs.isFile root then Path.stem name else name

/-- A discovery at a root. -/
def new (fs : FileSystem) (root : String) (package : Option String) : Discovery :=
  ⟨root, package.getD (defaultPackage fs root)⟩

/-- The dotted path of a file. -/
def importPath (d : Discovery) (path : String) : String :=
  let relative := Path.relativeTo (Path.components d.root) (Path.components path)
  let directories := ((Path.parent? relative).getD []).map (·.text)
  let name := (Path.lastName? relative).map Path.stem
  ".".intercalate (d.package :: directories.filter (· != ".") ++ name.toList)

/-! ## The walk -/

/-- Whether a directory is passed over. -/
def isSkipped (path : String) : Bool :=
  match Path.fileName? path with
  | some name => name == "target" || name == ".git"
  | none => false

/-- Whether a file is a Rust file. -/
def isRust (path : String) : Bool :=
  (Path.fileName? path).bind Path.extension? == some "rs"

mutual

/-- The Rust files of a tree at a path. -/
def walk (path : String) : Tree → Found
  | .file f => if isRust path then { files := [(path, f)] } else {}
  | .directory readable es =>
    if isSkipped path then {}
    else if readable then Found.inOrder (walkEntries path es)
    else { warnings := [{ message := (DiscoveryError.unreadable path).message }] }

/-- The Rust files of each entry of a directory. -/
def walkEntries (path : String) : List (String × Tree) → List (String × Found)
  | [] => []
  | (name, t) :: es => (name, walk (Path.join path name) t) :: walkEntries path es

end

/-- The files to look at. -/
def files (d : Discovery) (fs : FileSystem) : Except DiscoveryError Found :=
  match fs.find d.root with
  | .error _ => .error (.missing d.root)
  | .ok (.file f) => .ok { files := [(d.root, f)] }
  | .ok (.directory readable es) =>
    if readable || isSkipped d.root then .ok (walk d.root (.directory readable es))
    else .error (.unreadable d.root)

/-! ## Sources -/

/-- The source of a file. Times before 1970 count as zero. -/
def source (importPath path : String) (f : File) : Source :=
  ⟨path, importPath, f.modTime.toNat⟩

/-- The warning that an import path is taken. -/
def taken (s first : Source) : Warning where
  message := "skipping " ++ s.fullPath ++ ": import path " ++ s.importPath ++
    " already taken by " ++ first.fullPath

/-- Keep the first source of each import path, with a warning for each of the others. -/
def distinct (kept : List Source) : List Source → List Source × List Warning
  | [] => ([], [])
  | s :: ss =>
    match kept.find? (·.importPath == s.importPath) with
    | some first =>
      let (sources, warnings) := distinct kept ss
      (sources, taken s first :: warnings)
    | none =>
      let (sources, warnings) := distinct (kept ++ [s]) ss
      (s :: sources, warnings)

/-- The sources at the root, with warnings. -/
def sources (d : Discovery) (fs : FileSystem) :
    Except DiscoveryError (List Source × List Warning) :=
  match d.files fs with
  | .error e => .error e
  | .ok found =>
    let path := fun p => if fs.isFile d.root then d.package else d.importPath p
    let (sources, warnings) := distinct [] (found.files.map fun (p, f) => source (path p) p f)
    .ok (sources, found.warnings ++ warnings)

end Discovery

end CallAtlas
