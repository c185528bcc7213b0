import CallAtlas.Files.System

/-!
# Rasterizers

A rasterizer is an external program that reads DOT text and writes an image. `RenderError` says why
there is no image.
-/

namespace CallAtlas

/-- Why there is no image. -/
inductive RenderError where
  | missing (program : String)
  | failed (program : String) (code : Option Nat) (complaint : String)
  | io (path : String) (cause : OsError)
  deriving DecidableEq, Repr

namespace RenderError

/-- An exit code as text. A program that was stopped has none. -/
def codeText : Option Nat → String
  | none => "None"
  | some n => "Some(" ++ toString n ++ ")"

/-- The wording of an error. -/
def message : RenderError → String
  | .missing program => "rasterizer `" ++ program ++ "` not found in PATH"
  | .failed program code complaint =>
    "rasterizer `" ++ program ++ "` failed with exit code " ++ codeText code ++ ": " ++ complaint
  | .io path cause => "cannot write " ++ path ++ ": " ++ cause.message

end RenderError

/-- A program and the image format that it is asked for. -/
structure Rasterizer where
  program : String := "dot"
  format : String := "png"
  deriving DecidableEq, Repr

/-- A program with its arguments. -/
structure Invocation where
  program : String
  arguments : List String
  deriving DecidableEq, Repr

/-- How a rasterizer is called for an image. -/
def Rasterizer.invocation (r : Rasterizer) (output : String) : Invocation where
  program := r.program
  arguments := ["-T" ++ r.format, "-o", output]

end CallAtlas
