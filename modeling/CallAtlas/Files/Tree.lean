/-!
# File trees

A `Tree` is a file, or a directory with named entries. A place in a tree is given by the names on
the way to it.
-/

namespace CallAtlas

/-- The content of a file, the time of its last change in seconds since 1970, and whether it can
be run. -/
structure File where
  bytes : ByteArray
  modTime : Int := 0
  executable : Bool := false

/-- A file with a text. -/
def File.ofText (s : String) : File :=
  { bytes := s.toUTF8 }

/-- A file, or a directory that may be unreadable. -/
inductive Tree where
  | file (f : File)
  | directory (readable : Bool) (entries : List (String × Tree))

namespace Tree

/-- A directory without entries. -/
def emptyDirectory : Tree :=
  .directory true []

/-- The entries of a directory. -/
def entries : Tree → List (String × Tree)
  | .file _ => []
  | .directory _ es => es

/-- Whether a tree is a directory. -/
def isDirectory : Tree → Bool
  | .file _ => false
  | .directory _ _ => true

/-! ## Places -/

/-- The tree at a place, given by the names on the way. -/
def at? (t : Tree) : List String → Option Tree
  | [] => some t
  | name :: names => (t.entries.lookup name).bind (·.at? names)

/-- Set an entry, in its place if it is there, else at the end. -/
def setEntry (name : String) (t : Tree) : List (String × Tree) → List (String × Tree)
  | [] => [(name, t)]
  | e :: es => if e.1 = name then (name, t) :: es else e :: setEntry name t es

/-- Put a tree at a place, making the directories on the way. -/
def put (t : Tree) : List String → Tree → Tree
  | [], new => new
  | name :: names, new =>
    let inner := (t.entries.lookup name).getD emptyDirectory
    match t with
    | .directory readable es => .directory readable (setEntry name (inner.put names new) es)
    | .file _ => .directory true [(name, inner.put names new)]

/-- Remove what is at a place. The root stays. -/
def remove (t : Tree) : List String → Tree
  | [] => t
  | [name] =>
    match t with
    | .directory readable es => .directory readable (es.filter fun e => e.1 != name)
    | .file f => .file f
  | name :: names =>
    match t, t.entries.lookup name with
    | .directory readable es, some inner =>
      .directory readable (setEntry name (inner.remove names) es)
    | t, _ => t

end Tree

end CallAtlas
