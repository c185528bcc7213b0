import CallAtlas.Catalog.Registration
import CallAtlas.Warning

/-!
# Resolving references

A body mentions names in order. Each mentioned name that some entity carries is a call site, and
every entity with that name is a candidate for the callee. `Catalog.candidates` narrows them by the
options : entities of the caller's own file go first if they are preferred, and a limit keeps only
the oldest. `Catalog.addCallsOf` writes one call row for each candidate of each site.
-/

namespace CallAtlas

/-- A limit that keeps at least one. -/
structure Limit where
  count : Nat
  positive : 0 < count
  deriving DecidableEq, Repr

/-- The limit of a number other than zero. -/
def Limit.ofNat? (n : Nat) : Option Limit :=
  if h : 0 < n then some ⟨n, h⟩ else none

/-- How references are resolved. -/
structure ResolveOptions where
  /-- Names of initializers give no call site. -/
  suppressInitializers : Bool := false
  /-- Prefer candidates in the file of the caller. -/
  matchToFile : Bool := false
  /-- The names of initializers. -/
  initializers : List String := ["new", "__init__"]
  /-- The most candidates of one site. -/
  maxCandidates : Option Limit := none
  deriving DecidableEq, Repr

/-- Whether a name is one of an initializer. -/
def ResolveOptions.isInitializer (o : ResolveOptions) (name : String) : Bool :=
  o.initializers.contains name

/-- Counts of a resolution. -/
structure ResolveStats where
  callers : Nat := 0
  skipped : Nat := 0
  sites : Nat := 0
  rows : Nat := 0
  deriving DecidableEq, Repr

instance : Add ResolveStats :=
  ⟨fun a b => ⟨a.callers + b.callers, a.skipped + b.skipped, a.sites + b.sites, a.rows + b.rows⟩⟩

/-- What reads sources : the declarations of a file, and the names mentioned in the body of a
symbol. A refusal says why. -/
structure SourceReader (σ : Type) where
  declarations : FileRow → Except String (List (Declaration σ))
  references : σ → Except String (List String)

namespace Catalog

/-- Keep the first ones up to a limit. -/
def upTo : Option Limit → List Nat → List Nat
  | none, ids => ids
  | some l, ids => ids.take l.count

/-- The ids that belong to a file, or all of them if none does. -/
def preferFile (c : Catalog) (fileId : Nat) (ids : List Nat) : List Nat :=
  let own := ids.filter (c.inFile fileId)
  if own.isEmpty then ids else own

/-- The possible callees of a name mentioned in a file. -/
def candidates (c : Catalog) (name : String) (fileId : Nat) (o : ResolveOptions) : List Nat :=
  let ids := c.idsNamed name
  upTo o.maxCandidates (if o.matchToFile then c.preferFile fileId ids else ids)

/-- Whether a mentioned name is a call site. -/
def isSite (c : Catalog) (o : ResolveOptions) (name : String) : Bool :=
  c.hasName name && !(o.suppressInitializers && o.isInitializer name)

/-- Add one row for each candidate of a call site. -/
def addSite (c : Catalog) (caller : Nat) (key : String) (callees : List Nat) : Catalog :=
  callees.foldl (fun c callee => (c.addCall caller callee key).1) c

/-- Write the sites of a caller, the first of them with number `sequence`. -/
def resolveFrom (caller fileId : Nat) (o : ResolveOptions) (sequence : Nat) (c : Catalog) :
    List String → Catalog × ResolveStats
  | [] => (c, {})
  | name :: names =>
    if c.isSite o name then
      let callees := c.candidates name fileId o
      let (c, rest) := resolveFrom caller fileId o (sequence + 1)
        (c.addSite caller (siteKey caller sequence) callees) names
      (c, { sites := 1, rows := callees.length } + rest)
    else resolveFrom caller fileId o sequence c names

/-- Write the calls of one caller. -/
def addCallsOf (c : Catalog) (caller fileId : Nat) (names : List String) (o : ResolveOptions) :
    Catalog × ResolveStats :=
  let (c, stats) := resolveFrom caller fileId o 0 c names
  (c, { callers := 1 } + stats)

/-- The warning that the body of a symbol cannot be read. -/
def unreadable {σ : Type} (d : Discovered σ) (reason : String) : Warning where
  message := "cannot read references: " ++ reason
  details := [("entity", toString d.entityId), ("name", d.name)]

/-- Write the calls of all discovered symbols. A symbol whose body cannot be read is skipped. -/
def addCallsOfAll {σ : Type} (i : SourceReader σ) (o : ResolveOptions) (c : Catalog) :
    List (Discovered σ) → Catalog × ResolveStats × List Warning
  | [] => (c, {}, [])
  | d :: ds =>
    match i.references d.symbol with
    | .ok names =>
      let (c, stats) := c.addCallsOf d.entityId d.fileId names o
      let (c, rest, warnings) := addCallsOfAll i o c ds
      (c, stats + rest, warnings)
    | .error reason =>
      let (c, rest, warnings) := addCallsOfAll i o c ds
      (c, { skipped := 1 } + rest, unreadable d reason :: warnings)

end Catalog

end CallAtlas
