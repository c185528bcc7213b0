import CallAtlas.Catalog.Resolution
import CallAtlas.Store.Basic

/-!
# Analysis

`analyze` rebuilds the catalog of a store from sources. It clears the catalog, then registers the
files and what they declare in one phase, then resolves the calls in another. A source that cannot
be read is left out with a warning; an analysis fails only when there are no sources to be had, or
when the store refuses.
-/

namespace CallAtlas

/-- Why a source is left out. -/
inductive SourceError where
  /-- Its file has no row. -/
  | unregistered (fullPath : String)
  /-- Its import path belongs to another file. -/
  | claimed (source : Source) (holder : String)
  /-- Its declarations cannot be read. -/
  | unreadable (reason : String)
  deriving DecidableEq, Repr

/-- The wording of an error. -/
def SourceError.message : SourceError → String
  | .unregistered path => "File " ++ path ++ " missing after registration"
  | .claimed s holder =>
    "Skipping " ++ s.fullPath ++ ": import path " ++ s.importPath ++
      " already belongs to " ++ holder
  | .unreadable reason => reason

/-- Why an analysis fails. -/
inductive AnalysisError where
  | discovery (reason : String)
  | clearing (cause : StoreError)
  | cataloging (cause : StoreError)
  | resolution (cause : StoreError)
  deriving DecidableEq, Repr

namespace AnalysisError

/-- What failed. -/
def headline : AnalysisError → String
  | .discovery _ => "Source discovery failed"
  | .clearing _ => "Failed to clear catalog"
  | .cataloging _ => "Cataloging phase failed"
  | .resolution _ => "Resolution phase failed"

/-- Why it failed. -/
def cause : AnalysisError → String
  | .discovery reason => reason
  | .clearing e => e.message
  | .cataloging e => e.message
  | .resolution e => e.message

/-- What failed and why. -/
def message (e : AnalysisError) : String :=
  e.headline ++ ": " ++ e.cause

end AnalysisError

/-- Counts of an analysis. -/
structure AnalysisReport where
  files : Nat
  failedFiles : Nat
  entities : Nat
  resolve : ResolveStats
  deriving DecidableEq, Repr

namespace Catalog

variable {σ : Type}

/-- Register a source and what it declares. Its file row stays also when the rest fails. -/
def addSource (i : SourceReader σ) (c : Catalog) (s : Source) :
    Catalog × Except SourceError (List (Discovered σ)) :=
  let (c, id) := c.addFile s
  match c.file? id with
  | none => (c, .error (.unregistered s.fullPath))
  | some f =>
    if f.fullPath ≠ s.fullPath then (c, .error (.claimed s f.fullPath))
    else
      match i.declarations f with
      | .error reason => (c, .error (.unreadable reason))
      | .ok ds =>
        let (c, discovered) := c.declare id f.importPath ds
        (c, .ok discovered)

/-- Register sources one after another. There is one warning for each source that is left out. -/
def addSources (i : SourceReader σ) (c : Catalog) :
    List Source → Catalog × List (Discovered σ) × List Warning
  | [] => (c, [], [])
  | s :: ss =>
    match c.addSource i s with
    | (c, .ok found) =>
      let (c, rest, warnings) := addSources i c ss
      (c, found ++ rest, warnings)
    | (c, .error e) =>
      let (c, rest, warnings) := addSources i c ss
      (c, rest, { message := e.message } :: warnings)

/-- The phase that registers sources. It gives what was discovered and how many sources were
left out. -/
def catalogPhase (i : SourceReader σ) (sources : List Source) :
    Phase StoreError (List (Discovered σ) × Nat) := fun c =>
  let (c, discovered, warnings) := c.addSources i sources
  (c, warnings, .ok (discovered, warnings.length))

/-- The phase that resolves the calls of discovered symbols. -/
def resolvePhase (i : SourceReader σ) (o : ResolveOptions) (discovered : List (Discovered σ)) :
    Phase StoreError ResolveStats := fun c =>
  let (c, stats, warnings) := c.addCallsOfAll i o discovered
  (c, warnings, .ok stats)

end Catalog

/-- Rebuild the catalog of a store from the discovered sources. -/
def Store.analyze {β σ : Type} [Backend β] (s : Store β) (sources : Except String (List Source))
    (i : SourceReader σ) (o : ResolveOptions) :
    Store β × List Warning × Except AnalysisError AnalysisReport :=
  match sources with
  | .error reason => (s, [], .error (.discovery reason))
  | .ok sources =>
    match s.clear with
    | (s, .error e) => (s, [], .error (.clearing e))
    | (s, .ok ()) =>
      match s.transaction id (Catalog.catalogPhase i sources) with
      | (s, warnings, .error e) => (s, warnings, .error (.cataloging e))
      | (s, warnings, .ok (discovered, failed)) =>
        match s.transaction id (Catalog.resolvePhase i o discovered) with
        | (s, more, .error e) => (s, warnings ++ more, .error (.resolution e))
        | (s, more, .ok stats) =>
          (s, warnings ++ more, .ok {
            files := s.committed.files.length
            failedFiles := failed
            entities := s.committed.entities.length
            resolve := stats })

end CallAtlas
