import CallAtlas.Store.Basic

/-!
# Backends without a durable side

`Memory` keeps nothing : opened again, it is empty. `Refusing` keeps nothing either, and refuses
chosen writes, counted from one since it was opened; it shows what a store does when writes fail.
-/

namespace CallAtlas

/-- The backend that takes everything and keeps nothing. -/
structure Memory where
  deriving DecidableEq, Repr

instance : Backend Memory where
  load _ := .ok .empty
  persist m _ := (m, .ok ())
  reopened m := m

/-- A backend that refuses chosen writes. -/
structure Refusing where
  /-- The numbers of the refused writes. -/
  refused : List Nat
  /-- Whether it cannot be opened. -/
  closed : Bool
  /-- The number of writes so far. -/
  writes : Nat := 0
  deriving DecidableEq, Repr

instance : Backend Refusing where
  load r := if r.closed then .error .aborted else .ok .empty
  persist r _ :=
    let n := r.writes + 1
    ({ r with writes := n }, if n ∈ r.refused then .error .aborted else .ok ())
  reopened r := { r with writes := 0 }

end CallAtlas
