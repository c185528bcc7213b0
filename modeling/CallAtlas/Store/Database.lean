import CallAtlas.Store.Basic
import CallAtlas.Store.KeyTable

/-!
# The catalog database

A `Database` keeps each table of a catalog as a table keyed by row ids. All three are replaced
together. Loading gives the rows by ascending id; of several rows with one id only the last is kept.
-/

namespace CallAtlas

/-- The three tables of a catalog by key. -/
structure Database where
  files : KeyTable FileRow := []
  entities : KeyTable EntityRow := []
  calls : KeyTable CallRow := []

namespace Database

/-- The catalog that a database holds. -/
def catalog (d : Database) : Catalog :=
  .ofRows d.files.values d.entities.values d.calls.values

/-- The database that holds a catalog in place of what it held before. -/
def store (d : Database) (c : Catalog) : Database where
  files := d.files.replace (c.files.map fun r => (rowKey r.id, r))
  entities := d.entities.replace (c.entities.map fun r => (rowKey r.id, r))
  calls := d.calls.replace (c.calls.map fun r => (rowKey r.id, r))

end Database

instance : Backend Database where
  load d := .ok d.catalog
  persist d c := (d.store c, .ok ())
  reopened d := d

end CallAtlas
