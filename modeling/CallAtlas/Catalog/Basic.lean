import CallAtlas.Catalog.Index
import CallAtlas.Catalog.Rows

/-!
# The catalog

The tables are lists in order of creation. A file is known by its import path and an entity by its
name and import path : `addFile` and `addEntity` add a row only for what is not known yet, and give
the id of the known row otherwise. New ids count on from the number of rows. A catalog may also be
given by arbitrary rows; where rows disagree, the last one counts.

Looking up goes through indexes. A row that is added is entered into them, and a catalog of given
rows enters them one after another, so the indexes are always those of the tables.
-/

namespace CallAtlas

/-! ## Indexes of the tables -/

/-- The ids of the files of a table by import path. -/
def FileRow.index (rows : List FileRow) : Index String Nat :=
  rows.foldl (fun x f => x.insert f.importPath f.id) {}

theorem FileRow.index_concat (rows : List FileRow) (f : FileRow) :
    index (rows ++ [f]) = (index rows).insert f.importPath f.id := by
  simp [index]

/-- The indexes of a table of entities. -/
structure EntityIndex where
  /-- The id of each name in each container. -/
  byKey : Index (String × String) Nat := {}
  /-- The ids of each name, in order of creation. -/
  byName : Index String (List Nat) := {}
  /-- The place of each id in the table. -/
  places : Index Nat Nat := {}
  deriving DecidableEq, Repr

namespace EntityIndex

/-- Enter the row at a place. -/
def enter (x : EntityIndex) (place : Nat) (e : EntityRow) : EntityIndex where
  byKey := x.byKey.insert (e.name, e.importPath) e.id
  byName := x.byName.insert e.name ((x.byName.get? e.name).getD [] ++ [e.id])
  places := x.places.insert e.id place

/-- Enter rows, the first of them at the given place. -/
def enterFrom (place : Nat) (x : EntityIndex) : List EntityRow → EntityIndex
  | [] => x
  | e :: es => enterFrom (place + 1) (x.enter place e) es

/-- The indexes of a table. -/
def ofRows (rows : List EntityRow) : EntityIndex :=
  enterFrom 0 {} rows

theorem enterFrom_concat (e : EntityRow) :
    (rows : List EntityRow) → (place : Nat) → (x : EntityIndex) →
    enterFrom place x (rows ++ [e]) = (enterFrom place x rows).enter (place + rows.length) e
  | [], _, _ => rfl
  | r :: rows, place, x => by
    have ih := enterFrom_concat e rows (place + 1) (x.enter place r)
    rw [Nat.add_right_comm] at ih
    exact ih

theorem ofRows_concat (rows : List EntityRow) (e : EntityRow) :
    ofRows (rows ++ [e]) = (ofRows rows).enter rows.length e := by
  rw [ofRows, enterFrom_concat, Nat.zero_add, ofRows]

end EntityIndex

/-! ## Catalogs -/

/-- The tables of files, entities and calls, with their indexes. -/
structure Catalog where
  files : List FileRow := []
  entities : List EntityRow := []
  calls : List CallRow := []
  filesByPath : Index String Nat := FileRow.index files
  entityIndex : EntityIndex := .ofRows entities
  filesByPath_eq : filesByPath = FileRow.index files := by rfl
  entityIndex_eq : entityIndex = .ofRows entities := by rfl
  deriving DecidableEq, Repr

/-- How an entity got its id. -/
inductive Registration where
  | created (id : Nat)
  | existing (id : Nat)
  deriving DecidableEq, Repr

namespace Registration

/-- The id of the registered entity. -/
def id : Registration → Nat
  | .created i => i
  | .existing i => i

/-- Whether the entity is new. -/
def isCreated : Registration → Bool
  | .created _ => true
  | .existing _ => false

end Registration

namespace Catalog

/-- The catalog without rows. -/
def empty : Catalog :=
  {}

/-- The catalog of given rows. -/
def ofRows (files : List FileRow) (entities : List EntityRow) (calls : List CallRow) : Catalog :=
  { files, entities, calls }

/-- Whether all tables are empty. -/
def isEmpty (c : Catalog) : Bool :=
  c.files.isEmpty && c.entities.isEmpty && c.calls.isEmpty

/-! ## Looking up -/

/-- The file with an id. Its row stands at the place that the id counts. -/
def file? (c : Catalog) (id : Nat) : Option FileRow :=
  match id with
  | 0 => none
  | i + 1 => c.files[i]?.filter (·.id == i + 1)

/-- The entity with an id. -/
def entity? (c : Catalog) (id : Nat) : Option EntityRow :=
  (c.entityIndex.places.get? id).bind (c.entities[·]?)

/-- The id of the file with an import path. -/
def fileId? (c : Catalog) (importPath : String) : Option Nat :=
  c.filesByPath.get? importPath

/-- The id of the entity with a name in a container. -/
def entityId? (c : Catalog) (name importPath : String) : Option Nat :=
  c.entityIndex.byKey.get? (name, importPath)

/-- Whether an entity has this name. -/
def hasName (c : Catalog) (name : String) : Bool :=
  (c.entityIndex.byName.get? name).isSome

/-- The ids of the entities with a name, in order of creation. -/
def idsNamed (c : Catalog) (name : String) : List Nat :=
  (c.entityIndex.byName.get? name).getD []

/-- Whether the entity with this id is declared in a file. -/
def inFile (c : Catalog) (fileId id : Nat) : Bool :=
  (c.entity? id).any (·.fileId == fileId)

/-- The ids of the entities with a name, of one file if a file is given. -/
def find (c : Catalog) (name : String) : Option Nat → List Nat
  | none => c.idsNamed name
  | some f => (c.idsNamed name).filter (c.inFile f)

/-! ## Adding -/

/-- Add a file row. -/
def pushFile (c : Catalog) (f : FileRow) : Catalog :=
  { c with
    files := c.files ++ [f]
    filesByPath := c.filesByPath.insert f.importPath f.id
    filesByPath_eq := by rw [c.filesByPath_eq, FileRow.index_concat] }

/-- Add an entity row. -/
def pushEntity (c : Catalog) (e : EntityRow) : Catalog :=
  { c with
    entities := c.entities ++ [e]
    entityIndex := c.entityIndex.enter c.entities.length e
    entityIndex_eq := by rw [c.entityIndex_eq, EntityIndex.ofRows_concat] }

/-- Register a file, and give its id. -/
def addFile (c : Catalog) (s : Source) : Catalog × Nat :=
  match c.fileId? s.importPath with
  | some id => (c, id)
  | none =>
    let id := c.files.length + 1
    (c.pushFile { s with id }, id)

/-- Register an entity. -/
def addEntity (c : Catalog) (d : EntityDraft) : Catalog × Registration :=
  match c.entityId? d.name d.importPath with
  | some id => (c, .existing id)
  | none =>
    let id := c.entities.length + 1
    (c.pushEntity { d with id }, .created id)

/-- Add a call, and give its id. -/
def addCall (c : Catalog) (caller callee : Nat) (key : String) : Catalog × Nat :=
  let id := c.calls.length + 1
  ({ c with calls := c.calls ++ [{ id, caller, callee, key }] }, id)

end Catalog

end CallAtlas
