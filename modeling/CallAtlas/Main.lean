import CallAtlas.CommandLine.Run
import CallAtlas.Store.Archive

/-!
# The program

The program takes a picture of the files that its arguments name, lets `CommandLine.run` work on the
picture, and makes the changes that come out of it. A database is kept as a text in its directory.
-/

namespace CallAtlas.Program

/-- The path of a place. -/
def pathOf (place : List String) : String :=
  "/" ++ "/".intercalate place

/-- The place of a path, seen from a place. -/
def placeOf (here : List String) (path : String) : List String :=
  (Path.parts path).foldl (fun place part =>
    if part = "" || part = "." then place
    else if part = ".." then place.dropLast
    else place ++ [part]) (if path.startsWith "/" then [] else here)

/-- The file where a database is kept. -/
def databaseFile (place : List String) : String :=
  pathOf (place ++ ["catalog.toml"])

/-- The time of the last change of a path. -/
def modTime (path : String) : IO Int := do
  return (← ((← IO.currentDir) / path).metadata).modified.sec

/-- Whether a path leads to a directory. -/
def isDirectory (path : String) : IO Bool := do
  ((← IO.currentDir) / path).isDir

/-- Whether a path leads anywhere. -/
def pathExists (path : String) : IO Bool := do
  ((← IO.currentDir) / path).pathExists

/-- The names in a directory, if it can be read. -/
def names? (path : String) : IO (Option (List String)) := do
  let directory := (← IO.currentDir) / path
  try
    return some ((← directory.readDir).toList.map (·.fileName))
  catch _ => return none

/-- A file as it is. One that begins with the mark of a script can be run. -/
def fileAt (path : String) : IO File := do
  let bytes ← IO.FS.readBinFile path
  return {
    bytes
    modTime := ← modTime path
    executable := bytes.toList.take 2 == "#!".toUTF8.toList }

/-- A picture of what lies at a path. Only Rust files have their content, and directories without
sources are empty. -/
partial def picture (path : String) : IO Tree := do
  if ← isDirectory path then
    if Discovery.isSkipped path then return .emptyDirectory
    match ← names? path with
    | none => return .directory false []
    | some names => return .directory true (← names.mapM fun n => do
        return (n, ← picture (Path.join path n)))
  else if Discovery.isRust path then return .file (← fileAt path)
  else return .file { bytes := .empty }

/-- Add what lies on the way to a place : directories, and the file at the end. -/
def addWay (root : Tree) (place : List String) : IO Tree := do
  let mut root := root
  for n in [0 : place.length + 1] do
    let stop := place.take n
    let path := pathOf stop
    if (root.at? stop).isNone && (← pathExists path) then
      if ← isDirectory path then root := root.put stop .emptyDirectory
      else root := root.put stop (.file (← fileAt path))
  return root

/-- The world as far as arguments name it. -/
def worldFor (a : Arguments) : IO World := do
  let here := placeOf [] (← IO.currentDir).toString
  let target := placeOf here a.target
  let mut root ← addWay .emptyDirectory here
  root ← addWay root target
  if ← isDirectory (pathOf target) then root := root.put target (← picture (pathOf target))
  let config := a.config.getD Config.defaultFile
  root ← addWay root (placeOf here config)
  let settings := a.applyTo ((Config.load { root, cwd := here } a.config).toOption.getD {})
  for path in [settings.batch.outDir, settings.batch.rasterizer] ++ a.outFile.toList ++
    a.dbFile.toList do
    root ← addWay root (placeOf here path)
  let databases ← a.dbFile.toList.filterMapM fun path => do
    let place := placeOf here path
    if ← pathExists (databaseFile place) then
      return (Database.ofText? (← IO.FS.readFile (databaseFile place))).map (place, ·)
    return none
  return { files := { root, cwd := here }, databases }

/-- Make a change. -/
def make : Change → IO Unit
  | .wrote place bytes => IO.FS.writeBinFile (pathOf place) bytes
  | .madeDirectory place => IO.FS.createDirAll (pathOf place)
  | .removed place => do
    let path := pathOf place
    if ← isDirectory path then IO.FS.removeDirAll path else IO.FS.removeFile path

/-- Make all changes, and keep the databases. -/
def keep (w : World) : IO Unit := do
  w.files.changes.forM make
  for (place, database) in w.databases do
    IO.FS.createDirAll (pathOf place)
    IO.FS.writeFile (databaseFile place) database.toText

/-- The help. -/
def help : String :=
  "Static call graphs for Rust sources\n\nUsage: callflow [OPTIONS] <TARGET>\n\nOptions:\n" ++
    String.join (ArgumentName.options.map fun o => "  " ++ o.1.text ++ "\n")

end CallAtlas.Program

open CallAtlas in
/-- Run the command line, and give its exit code. -/
def main (args : List String) : IO UInt32 := do
  let world ← match Arguments.parse args with
    | .ok a => Program.worldFor a
    | .error .help => IO.print Program.help; pure {}
    | .error _ => pure {}
  let (world, result) := CommandLine.run world args
  Program.keep world
  IO.print result.output
  result.complaints.forM IO.eprintln
  return result.code.toUInt32
