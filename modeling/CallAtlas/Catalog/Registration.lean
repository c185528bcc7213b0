import CallAtlas.Catalog.Basic
import CallAtlas.Catalog.Declaration

/-!
# Registering declaration trees

`Catalog.declare` registers the trees of one file, parents before children and in order. What a
class directly contains is owned by the class, modules apart. The new entities with a body come back
as discovered symbols : their calls are still to be resolved.
-/

namespace CallAtlas

/-- A newly registered entity with a body. -/
structure Discovered (σ : Type) where
  entityId : Nat
  fileId : Nat
  name : String
  symbol : σ
  deriving DecidableEq, Repr

namespace Catalog

variable {σ : Type}

/-- The entity that a declaration asks for. A module has no owner. -/
def draft (fileId : Nat) (container : String) (owner : Option Nat) (name : String) (kind : Kind) :
    EntityDraft :=
  { fileId, name, kind, importPath := container, owner := if kind = .module then none else owner }

mutual

/-- Register a declaration and all inside it. -/
def declareOne (fileId : Nat) (container : String) (owner : Option Nat) (c : Catalog) :
    Declaration σ → Catalog × List (Discovered σ)
  | .mk name kind symbol children =>
    let (c, registration) := c.addEntity (draft fileId container owner name kind)
    let own := if kind.isExecutable && registration.isCreated then
      [⟨registration.id, fileId, name, symbol⟩] else []
    let inner := if kind = .classType then some registration.id else none
    let (c, rest) := declareAll fileId (container ++ "." ++ name) inner c children
    (c, own ++ rest)

/-- Register declarations of one container. -/
def declareAll (fileId : Nat) (container : String) (owner : Option Nat) (c : Catalog) :
    List (Declaration σ) → Catalog × List (Discovered σ)
  | [] => (c, [])
  | d :: ds =>
    let (c, first) := declareOne fileId container owner c d
    let (c, rest) := declareAll fileId container owner c ds
    (c, first ++ rest)

end

/-- Register what a file declares. -/
def declare (c : Catalog) (fileId : Nat) (importPath : String) (ds : List (Declaration σ)) :
    Catalog × List (Discovered σ) :=
  declareAll fileId importPath none c ds

end Catalog

end CallAtlas
