import CallAtlas.Catalog.Kind

/-!
# Rows of the catalog

A catalog has three tables : files, entities, and calls between entities. A source becomes a file
row, and a draft of an entity an entity row, when it gets an id. The rows of one call site share a
key, so a site with several possible callees stays one site.
-/

namespace CallAtlas

/-- A source file : where it is, the dotted path it is imported by, and when it was last changed. -/
structure Source where
  fullPath : String
  importPath : String
  modTime : Nat
  deriving DecidableEq, Repr

/-- A cataloged file. -/
structure FileRow extends Source where
  id : Nat
  deriving DecidableEq, Repr

/-- An entity before it has an id. The import path is the dotted path of its container. -/
structure EntityDraft where
  fileId : Nat
  name : String
  kind : Kind
  importPath : String
  owner : Option Nat
  deriving DecidableEq, Repr

/-- A cataloged entity. -/
structure EntityRow extends EntityDraft where
  id : Nat
  deriving DecidableEq, Repr

/-- A cataloged call : one possible callee of one call site. -/
structure CallRow where
  id : Nat
  caller : Nat
  callee : Nat
  key : String
  deriving DecidableEq, Repr

/-- The key of the call site with the given number in the body of `caller`. -/
def siteKey (caller sequence : Nat) : String :=
  toString caller ++ "." ++ toString sequence

end CallAtlas
