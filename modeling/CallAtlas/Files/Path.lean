import CallAtlas.Text.Split

/-!
# Paths

A path is a text. `components` is what it says : separators that repeat or stand at the end say
nothing, and neither does a dot, unless the path begins with it. Two paths with the same components
are the same path, and the order of paths is that of their components.
-/

namespace CallAtlas

/-- One step of a path. -/
inductive Component where
  | root
  | current
  | parent
  | name (s : String)
  deriving DecidableEq, Repr

/-- The text of a step. -/
def Component.text : Component → String
  | .root => "/"
  | .current => "."
  | .parent => ".."
  | .name s => s

namespace Path

/-- The parts of a path between separators. -/
def parts (path : String) : List String :=
  (Text.splitOn '/' path.toList).map String.ofList

/-- The step of a part, if it says anything. -/
def component? (s : String) : Option Component :=
  if s = "" || s = "." then none
  else if s = ".." then some .parent
  else some (.name s)

/-- The steps of a path. -/
def components (path : String) : List Component :=
  let steps := (parts path).filterMap component?
  match parts path with
  | "" :: _ :: _ => .root :: steps
  | "." :: _ => .current :: steps
  | _ => steps

/-- The path with the given steps. -/
def ofComponents : List Component → String
  | .root :: cs => "/" ++ "/".intercalate (cs.map (·.text))
  | cs => "/".intercalate (cs.map (·.text))

/-- The last step, if it is a name. -/
def lastName? (cs : List Component) : Option String :=
  match cs.getLast? with
  | some (.name s) => some s
  | _ => none

/-- The file name of a path. -/
def fileName? (path : String) : Option String :=
  lastName? (components path)

/-- The name before its last dot, and what comes after. A dot in front starts no extension. -/
def splitName (name : String) : String × Option String :=
  let cs := name.toList.reverse
  let extension := (cs.takeWhile (· != '.')).reverse
  match cs.dropWhile (· != '.') with
  | [] => (name, none)
  | [_] => (name, none)
  | _ :: stem => (String.ofList stem.reverse, some (String.ofList extension))

/-- A name without its extension. -/
def stem (name : String) : String :=
  (splitName name).1

/-- The extension of a name. -/
def extension? (name : String) : Option String :=
  (splitName name).2

/-- The steps without those of the directory in front, or all of them if it is not in front. -/
def relativeTo (directory path : List Component) : List Component :=
  if directory.isPrefixOf path then path.drop directory.length else path

/-- The steps to the parent. The root and the empty path have none. -/
def parent? (cs : List Component) : Option (List Component) :=
  match cs.getLast? with
  | none => none
  | some .root => none
  | some _ => some cs.dropLast

/-- A path inside a directory. -/
def join (directory name : String) : String :=
  if directory.isEmpty || directory.endsWith "/" then directory ++ name
  else directory ++ "/" ++ name

end Path

end CallAtlas
