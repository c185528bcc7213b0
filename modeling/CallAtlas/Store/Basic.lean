import CallAtlas.Catalog.Basic
import CallAtlas.Warning

/-!
# The catalog store

A store holds the committed catalog and a backend that keeps a durable copy. Changes are made in
phases : a phase works on a staged catalog, which it leaves changed also where it fails.
`Store.transaction` commits what was staged only if the phase succeeds and the backend takes it.
Otherwise the staged catalog is dropped and the committed one stays as it is.
-/

namespace CallAtlas

/-- Why a backend refuses. -/
inductive StoreError where
  /-- The database below it fails. -/
  | database (reason : String)
  /-- A row cannot be written as bytes or read from them. -/
  | codec (reason : String)
  /-- The write was given up. -/
  | aborted
  deriving DecidableEq, Repr

/-- The wording of a refusal. -/
def StoreError.message : StoreError → String
  | .database reason => "catalog database error: " ++ reason
  | .codec reason => "catalog row codec error: " ++ reason
  | .aborted => "catalog transaction aborted"

/-- The durable side of a store. -/
class Backend (β : Type) where
  /-- The catalog kept last. -/
  load : β → Except StoreError Catalog
  /-- Keep a catalog in place of the one before. -/
  persist : β → Catalog → β × Except StoreError Unit
  /-- What is left of the backend when it is opened again. -/
  reopened : β → β

/-- A backend and the catalog that was committed last. -/
structure Store (β : Type) where
  backend : β
  committed : Catalog

/-- Work on a staged catalog. It may warn, and it may fail halfway. -/
abbrev Phase (ε α : Type) := Catalog → Catalog × List Warning × Except ε α

namespace Store

variable {β ε α : Type} [Backend β]

/-- Open the store of a backend. -/
def openWith (backend : β) : Except StoreError (Store β) :=
  (Backend.load backend).map fun c => ⟨backend, c⟩

/-- Close the store and open its backend again. -/
def reopen (s : Store β) : Except StoreError (Store β) :=
  openWith (Backend.reopened s.backend)

/-- Commit a catalog, if the backend takes it. -/
def commit (s : Store β) (staged : Catalog) : Store β × Except StoreError Unit :=
  match Backend.persist s.backend staged with
  | (backend, .ok ()) => (⟨backend, staged⟩, .ok ())
  | (backend, .error e) => (⟨backend, s.committed⟩, .error e)

/-- Run a phase on a copy of the committed catalog, and commit the copy if the phase succeeds. A
refusal by the backend fails the transaction with `refused`. -/
def transaction (s : Store β) (refused : StoreError → ε) (phase : Phase ε α) :
    Store β × List Warning × Except ε α :=
  match phase s.committed with
  | (_, warnings, .error e) => (s, warnings, .error e)
  | (staged, warnings, .ok a) =>
    match s.commit staged with
    | (s, .ok ()) => (s, warnings, .ok a)
    | (s, .error e) => (s, warnings, .error (refused e))

/-- Commit the catalog without rows. -/
def clear (s : Store β) : Store β × Except StoreError Unit :=
  s.commit .empty

end Store

end CallAtlas
