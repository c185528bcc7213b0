import CallAtlas.Catalog.Resolution
import CallAtlas.Files.System
import CallAtlas.Code.Outline

/-!
# Reading Rust files

`sourceReader fs` reads the outline of files in a file system. What the body of a symbol mentions is
known from then on.
-/

namespace CallAtlas.Code

/-- Why a file cannot be outlined. -/
inductive FileError where
  | unreadable (path : String) (cause : OsError)
  | invalid (path : String)
  deriving DecidableEq, Repr

/-- The complaint about a text that is not a Rust source. -/
def invalidSource : String :=
  "Failed to parse Rust source"

/-- The wording of an error. -/
def FileError.message : FileError → String
  | .unreadable path cause => "Failed to read file " ++ path ++ ": " ++ cause.message
  | .invalid path => "Unable to process file " ++ path ++ ": " ++ invalidSource

/-- The outline of the file at a path. -/
def outlineFile (fs : FileSystem) (path scope : String) : Except FileError (List Node) :=
  match fs.readText path with
  | .error e => .error (.unreadable path e)
  | .ok text =>
    match outline? text scope with
    | none => .error (.invalid path)
    | some nodes => .ok nodes

/-- The reader for the files of a file system. -/
def sourceReader (fs : FileSystem) : SourceReader Symbol where
  declarations f := (outlineFile fs f.fullPath f.importPath).mapError (·.message)
  references s := .ok s.references

end CallAtlas.Code
