import CallAtlas.Images.Rasterizer
import CallAtlas.Shell.Run
import CallAtlas.Text.Blank

/-!
# Running a rasterizer

A program is named by a path to an executable script, or by the name of one of the programs that
every system has. `Rasterizer.rasterize` feeds DOT text to a program and judges by its exit whether
there is an image.
-/

namespace CallAtlas

namespace Shell

/-- How a program ended : with an exit code, or stopped by a signal. -/
structure Exit where
  files : FileSystem
  code : Option Nat
  errors : ByteArray
  /-- What is left of the standard input. -/
  unread : ByteArray

/-- The state that a program starts in. It reads its input from the first channel, what it writes is
dropped, and its complaints go to the last channel. -/
def State.initial (fs : FileSystem) (name : String) (input : ByteArray) : State where
  name
  arguments := []
  files := fs
  channels := #[.input input 0, .nothing, .output .empty]
  streams := [(0, 0), (1, 1), (2, 2)]

/-- Run a program with a standard input. -/
def execute (fs : FileSystem) (i : Invocation) (input : ByteArray) : Except OsError Exit :=
  if (i.program :: i.arguments).any (·.toList.contains '\x00') then .error .nullInArgument
  else
    match Program.find fs i.program i.arguments with
    | .error e => .error e
    | .ok p =>
      let (result, s) : Except Fate Nat × State :=
        (runner.launch Runner.launchLimit p).run.run (State.initial fs p.name input)
      let code := match result with
        | .ok code => some code
        | .error (.exits code) => some code
        | .error _ => none
      let content (n : Nat) : ByteArray := ((s.channels[n]?).getD .nothing).content
      .ok ⟨{ s.files with cwd := fs.cwd }, code, content 2, content 0⟩

end Shell

/-- What a pipe holds that nobody reads. -/
def pipeCapacity : Nat :=
  65536

/-- Make an image of DOT text. A text that the program did not take in is an error only if the
program has no other complaint. -/
def Rasterizer.rasterize (r : Rasterizer) (fs : FileSystem) (dot output : String) :
    FileSystem × Except RenderError Unit :=
  match Shell.execute fs (r.invocation output) dot.toUTF8 with
  | .error .notFound => (fs, .error (.missing r.program))
  | .error e => (fs, .error (.io r.program e))
  | .ok exit =>
    (exit.files,
      match exit.code with
      | some 0 =>
        if pipeCapacity < exit.unread.size then .error (.io r.program .brokenPipe) else .ok ()
      | code => .error (.failed r.program code (Text.trim (Text.Lossy.decode exit.errors))))

end CallAtlas
