import CallAtlas.Graph.Projection

/-!
# The text summary

`summary` has a section for each file of a catalog : its paths, and the shown entities of the file
with what each of them calls.
-/

namespace CallAtlas.Report

/-- How a callee is told : by name and container, or by its id when it is not shown. -/
def callee (p : Projection) (id : Nat) : String :=
  match p.get? id with
  | some e => e.name ++ " from " ++ e.importPath
  | none => "entity " ++ toString id

/-- The lines of a call site. -/
def siteLines (p : Projection) : CallGroup → List String
  | [only] => ["\t\t-- Calls " ++ callee p only]
  | group =>
    "\t\t-- Ambiguous call, may call any of these:" ::
      group.map fun id => "\t\t\t-- Calls " ++ callee p id

/-- The lines of an entity. -/
def entityLines (p : Projection) (e : Entity) : List String :=
  ("\t- " ++ e.name) ::
    if e.calls.isEmpty then ["\t\t-- No external calls"] else e.calls.flatMap (siteLines p)

/-- The shown entities that the catalog has in a file. -/
def entitiesOf (c : Catalog) (p : Projection) (fileId : Nat) : List (Nat × Entity) :=
  p.toList.filter (c.inFile fileId ·.1)

/-- The lines of a file, with an empty one at the end. -/
def fileLines (c : Catalog) (p : Projection) (f : FileRow) : List String :=
  ["Module: " ++ f.importPath, "(" ++ f.fullPath ++ ")", "Defines:"] ++
  (entitiesOf c p f.id).flatMap (entityLines p ·.2) ++
  [""]

/-- The summary of a catalog for the entities of a projection. -/
def summary (c : Catalog) (p : Projection) : String :=
  String.join ((c.files.flatMap (fileLines c p)).map (· ++ "\n"))

end CallAtlas.Report
