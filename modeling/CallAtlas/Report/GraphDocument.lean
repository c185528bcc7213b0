import CallAtlas.Graph.Projection
import CallAtlas.Report.Json

/-!
# The call graph as a document

A `GraphDocument` lists the shown entities as nodes, and all call sites with their candidates.
`GraphDocument.toJson` is its JSON form.
-/

namespace CallAtlas.Report

/-- An entity without its calls. -/
structure GraphNode where
  id : Nat
  label : String
  name : String
  kind : Kind
  module : String
  importPath : String
  owner : Option Nat
  deriving DecidableEq, Repr

/-- A call site : its number in the body of the caller, and the possible callees. -/
structure CallSite where
  caller : Nat
  sequence : Nat
  candidates : CallGroup
  ambiguous : Bool
  deriving DecidableEq, Repr

/-- Nodes and call sites. -/
structure GraphDocument where
  nodes : List GraphNode
  callSites : List CallSite
  deriving DecidableEq, Repr

namespace GraphDocument

/-- The node of an entity. -/
def node (id : Nat) (e : Entity) : GraphNode where
  id := id
  label := e.name
  name := e.baseName
  kind := e.kind
  module := e.file
  importPath := e.importPath
  owner := e.owner

/-- The call sites of an entity. -/
def sites (id : Nat) (e : Entity) : List CallSite :=
  e.calls.zipIdx.map fun (group, sequence) => ⟨id, sequence, group, group.isAmbiguous⟩

/-- The document of a projection. -/
def ofProjection (p : Projection) : GraphDocument where
  nodes := p.toList.map fun (id, e) => node id e
  callSites := p.toList.flatMap fun (id, e) => sites id e

/-! ## JSON -/

/-- The JSON form of a node. -/
def nodeJson (n : GraphNode) : JsonValue :=
  .object [("id", .number n.id), ("label", .string n.label), ("name", .string n.name),
    ("kind", .string n.kind.name), ("module", .string n.module),
    ("import_path", .string n.importPath), ("member_of_class", .ofNat? n.owner)]

/-- The JSON form of a call site. -/
def siteJson (s : CallSite) : JsonValue :=
  .object [("caller", .number s.caller), ("sequence", .number s.sequence),
    ("candidates", .array (s.candidates.map .number)), ("ambiguous", .bool s.ambiguous)]

/-- The JSON form of a document. -/
def toJson (d : GraphDocument) : JsonValue :=
  .object [("nodes", .array (d.nodes.map nodeJson)),
    ("call_sites", .array (d.callSites.map siteJson))]

end GraphDocument

/-- The JSON text of a projection. -/
def graphText (p : Projection) : String :=
  (GraphDocument.ofProjection p).toJson.pretty

end CallAtlas.Report
