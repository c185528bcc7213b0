import CallAtlas.Catalog.Basic
import CallAtlas.Ids.Map

/-!
# The call graph

A `Projection` shows the entities of a catalog by ascending id, each with its calls : one group of
possible callees for each call site. A group with more than one callee is an ambiguous call.
`Catalog.project` reads the projection off the tables : `Grouping` collects the groups of all
callers in one pass over the calls, and each shown row takes the groups of its id.
-/

namespace CallAtlas

/-- The possible callees of one call site. -/
abbrev CallGroup := List Nat

/-- Whether a call has more than one possible callee. -/
def CallGroup.isAmbiguous (g : CallGroup) : Bool :=
  1 < g.length

/-- An entity as it is shown. -/
structure Entity where
  /-- The name with the decoration of its kind. -/
  name : String
  /-- The name as declared. -/
  baseName : String
  kind : Kind
  /-- The import path of its file. -/
  file : String
  /-- The dotted path of its container. -/
  importPath : String
  owner : Option Nat
  /-- Call sites in order. -/
  calls : List CallGroup
  deriving DecidableEq, Repr

/-- Shown entities by id. -/
abbrev Projection := IdMap Entity

/-! ## Call groups -/

/-- Call groups in the making : the groups of each caller, and the number that each key of a
caller has. -/
structure Grouping where
  groups : Index Nat (List CallGroup) := {}
  numbers : Index Nat (Index String Nat) := {}
  deriving DecidableEq, Repr

namespace Grouping

/-- The groups of a caller. -/
def groupsOf (g : Grouping) (caller : Nat) : List CallGroup :=
  (g.groups.get? caller).getD []

/-- The numbers of the keys of a caller. -/
def numbersOf (g : Grouping) (caller : Nat) : Index String Nat :=
  (g.numbers.get? caller).getD {}

/-- Put a call into the group of its key. A key of the caller that is new begins a group. -/
def add (g : Grouping) (r : CallRow) : Grouping :=
  let groups := g.groupsOf r.caller
  let numbers := g.numbersOf r.caller
  match numbers.get? r.key with
  | some n => { g with groups := g.groups.insert r.caller (groups.modify n (· ++ [r.callee])) }
  | none => {
      groups := g.groups.insert r.caller (groups ++ [[r.callee]])
      numbers := g.numbers.insert r.caller (numbers.insert r.key groups.length) }

/-- The groups of a table of calls. -/
def ofRows (rows : List CallRow) : Grouping :=
  rows.foldl add {}

end Grouping

/-! ## Showing a catalog -/

namespace Catalog

/-- An entity of a file as it is shown. -/
def shown (e : EntityRow) (f : FileRow) (calls : List CallGroup) : Entity where
  name := e.name ++ e.kind.decoration
  baseName := e.name
  kind := e.kind
  file := f.importPath
  importPath := e.importPath
  owner := e.owner
  calls := calls

/-- Show the rows whose file is known. The groups of an id go to the first row that takes them. -/
def showRows (c : Catalog) (groups : Index Nat (List CallGroup)) :
    List EntityRow → List (Nat × Entity)
  | [] => []
  | e :: es =>
    match c.file? e.fileId with
    | none => showRows c groups es
    | some f =>
      (e.id, shown e f ((groups.get? e.id).getD [])) :: showRows c (groups.erase e.id) es

/-- The call graph of a catalog. -/
def project (c : Catalog) : Projection :=
  IdMap.ofList (c.showRows (Grouping.ofRows c.calls).groups c.entities)

end Catalog

end CallAtlas
