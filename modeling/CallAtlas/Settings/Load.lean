import CallAtlas.Files.System
import CallAtlas.Settings.Config

/-!
# Loading the configuration

The configuration is read from the file that is asked for. If none is asked for, it is read from the
default file if there is one.
-/

namespace CallAtlas

/-- Why there is no configuration. -/
inductive ConfigError where
  | unreadable (path : String) (cause : OsError)
  | invalid (path : String)
  deriving DecidableEq, Repr

/-- The wording of an error. -/
def ConfigError.message : ConfigError → String
  | .unreadable path cause => "cannot read config " ++ path ++ ": " ++ cause.message
  | .invalid path => "invalid config " ++ path

namespace Config

/-- The file that is read when none is asked for. -/
def defaultFile : String :=
  "callflow.toml"

/-- The configuration that a text at a path gives. -/
def ofText (path text : String) : Except ConfigError Config :=
  match parse? text with
  | some c => .ok c
  | none => .error (.invalid path)

/-- The configuration in a file. -/
def ofFile (fs : FileSystem) (path : String) : Except ConfigError Config :=
  match fs.readText path with
  | .error e => .error (.unreadable path e)
  | .ok text => ofText path text

/-- The configuration in the given file, or in the default file, or without settings. -/
def load (fs : FileSystem) : Option String → Except ConfigError Config
  | some path => ofFile fs path
  | none => if fs.isFile defaultFile then ofFile fs defaultFile else .ok {}

end Config

end CallAtlas
