import CallAtlas.Catalog.Index
import CallAtlas.Drawing.Basic
import CallAtlas.Graph.Projection

/-!
# Drawing a call graph

`Projection.draw` draws a projection in two passes. The first puts the entities into clusters, by
ascending id : each asks for the cluster of its file, then for that of its owner, and a class for
its own. The node of a class stands in its own cluster, the node of a member in the cluster of its
owner, and every other node in that of its file. A `ClusterSet` remembers the position of the
cluster of each file and each class. The second pass draws the edges. They follow the calls of the
entities with a node, site by site.
-/

namespace CallAtlas

/-! ## Clusters -/

theorem isNested_nil : IsNested [] :=
  fun _ _ hc => by simp at hc

/-- A new cluster has nothing nested in it. -/
theorem IsNested.concat {cs : List Cluster} (h : IsNested cs) (place : Place) (label : String) :
    IsNested (cs ++ [{ place := place, label := label }]) := by
  intro i c hc k hk
  rw [List.getElem?_append] at hc
  split at hc
  · exact h i c hc k hk
  · obtain rfl := List.mem_singleton.mp (List.mem_of_getElem? hc)
    cases hk

/-- A cluster may be changed, and later ones nested in it. -/
theorem IsNested.modify {cs : List Cluster} (h : IsNested cs) {i : Nat} {f : Cluster → Cluster}
    (hf : ∀ c, ∀ k ∈ (f c).children, k ∈ c.children ∨ i < k) : IsNested (cs.modify i f) := by
  intro j c hc k hk
  rw [List.getElem?_modify] at hc
  obtain ⟨b, hb, rfl⟩ := Option.map_eq_some_iff.mp hc
  split at hk
  · rename_i hij
    rcases hf b k hk with hold | hlater
    · exact h j b hb k hold
    · exact hij ▸ hlater
  · exact h j b hb k hk

/-- Clusters in the making, and where those of files and classes are. -/
structure ClusterSet where
  clusters : List Cluster := []
  roots : List Nat := []
  byFile : Index String Nat := {}
  byClass : Index Nat Nat := {}
  nested : IsNested clusters
  bounded : ∀ path k, byFile.get? path = some k → k < clusters.length

namespace ClusterSet

/-- No clusters. -/
def empty : ClusterSet where
  nested := isNested_nil
  bounded _ _ h := by cases h

/-- Add a cluster after the others. -/
def push (s : ClusterSet) (place : Place) (label : String) : ClusterSet :=
  { s with
    clusters := s.clusters ++ [{ place := place, label := label }]
    nested := s.nested.concat place label
    bounded := fun path k hk => by
      have := s.bounded path k hk
      simp only [List.length_append, List.length_singleton]
      omega }

/-- Add the cluster of a file, which is a root. -/
def addFile (s : ClusterSet) (path : String) : ClusterSet :=
  { s.push (.file path) path with
    roots := s.roots ++ [s.clusters.length]
    byFile := s.byFile.insert path s.clusters.length
    bounded := fun path' k hk => by
      rw [Index.get?_insert] at hk
      split at hk
      · obtain rfl := Option.some.inj hk
        simp [push]
      · exact (s.push (.file path) path).bounded path' k hk }

/-- The cluster of a file. -/
def file (s : ClusterSet) (path : String) : ClusterSet × Nat :=
  match s.byFile.get? path with
  | some k => (s, k)
  | none => (s.addFile path, s.clusters.length)

theorem file_lt (s : ClusterSet) (path : String) :
    (s.file path).2 < (s.file path).1.clusters.length := by
  unfold file
  cases hk : s.byFile.get? path with
  | some k => exact s.bounded path k hk
  | none => simp [addFile, push]

/-- Nest a cluster in an earlier one. -/
def addChild (s : ClusterSet) (parent child : Nat) (h : parent < child) : ClusterSet :=
  { s with
    clusters := s.clusters.modify parent fun c => { c with children := c.children ++ [child] }
    nested := s.nested.modify fun c k hk => by
      rcases List.mem_append.mp hk with hk | hk
      · exact .inl hk
      · exact .inr (List.mem_singleton.mp hk ▸ h)
    bounded := fun path k hk => by
      rw [List.length_modify]
      exact s.bounded path k hk }

/-- Add the cluster of a class, nested in an earlier one. -/
def addClass (s : ClusterSet) (id : Nat) (label : String) (parent : Nat)
    (h : parent < s.clusters.length) :
    ClusterSet :=
  { (s.push (.classBody id) label).addChild parent s.clusters.length h with
    byClass := s.byClass.insert id s.clusters.length }

/-- Add a node to a cluster. -/
def addNode (s : ClusterSet) (position : Nat) (n : Node) : ClusterSet :=
  { s with
    clusters := s.clusters.modify position fun c => { c with nodes := c.nodes ++ [n] }
    nested := s.nested.modify fun _ _ hk => .inl hk
    bounded := fun path k hk => by
      rw [List.length_modify]
      exact s.bounded path k hk }

end ClusterSet

/-- The file and the label of a class. One that is not shown stands in the file that asks for it,
under its id. -/
def Projection.homeOf (p : Projection) (id : Nat) (asking : String) : String × String :=
  match p.get? id with
  | some e => (e.file, e.name)
  | none => (asking, toString id)

/-- The cluster of a class, nested in that of its file. -/
def ClusterSet.classBody (p : Projection) (s : ClusterSet) (id : Nat) (asking : String) :
    ClusterSet × Nat :=
  match s.byClass.get? id with
  | some k => (s, k)
  | none =>
    let (home, label) := p.homeOf id asking
    ((s.file home).1.addClass id label (s.file home).2 (s.file_lt home),
      (s.file home).1.clusters.length)

/-- The cluster around an entity : that of its owner, or that of its file. -/
def ClusterSet.enclosing (p : Projection) (s : ClusterSet) (e : Entity) : ClusterSet × Nat :=
  let (s, inFile) := s.file e.file
  match e.owner with
  | some c => s.classBody p c e.file
  | none => (s, inFile)

namespace Projection

/-- The clusters so far, and the entities that have a node. -/
structure Canvas where
  clusters : ClusterSet := .empty
  drawn : IdSet := ∅

/-- Add the node of an entity to a cluster. -/
def Canvas.addNode (s : Canvas) (o : DrawOptions) (position id : Nat) (label : String) :
    Canvas where
  clusters := s.clusters.addNode position ⟨id, label, id ∈ o.highlight⟩
  drawn := s.drawn.insert id

/-- Put an entity into its cluster. -/
def place (p : Projection) (o : DrawOptions) (s : Canvas) (id : Nat) (e : Entity) : Canvas :=
  let (clusters, target) := s.clusters.enclosing p e
  if e.kind = .classType then
    let (clusters, own) := clusters.classBody p id e.file
    if o.suppressClasses then { s with clusters }
    else { s with clusters : Canvas }.addNode o own id (e.name ++ " (ref)")
  else { s with clusters : Canvas }.addNode o target id e.name

/-- The clusters of a projection with their nodes. -/
def canvas (p : Projection) (o : DrawOptions) : Canvas :=
  p.toList.foldl (fun s x => p.place o s x.1 x.2) {}

/-! ## Edges -/

/-- What is drawn so far, and the colour that comes next. -/
structure Pen where
  wheel : ColorWheel := .new
  edges : List Edge := []

/-- The colour of a call site, and the wheel after it. -/
def siteColor (wheel : ColorWheel) : EdgeColor → String × ColorWheel
  | .fixed color => (color, wheel)
  | .rotate => (wheel.color, wheel.turn)

/-- The style of the edges of a call site. -/
def siteStyle (g : CallGroup) : EdgeStyle :=
  if g.isAmbiguous then .dashed else .solid

/-- Whether a call from `u` to `v` gets an edge after those so far, if the entities with a node
are `drawn`. -/
def admits (p : Projection) (o : DrawOptions) (drawn : IdSet) (edges : List Edge) (u v : Nat) :
    Bool :=
  v ∈ drawn &&
  !(o.suppressRecursive && v == u) &&
  !(o.combineCalls && edges.any (·.joins u v)) &&
  !(o.suppressClasses && (p.get? v).map (·.kind) == some .classType)

/-- Draw the edges of a call site. -/
def drawSite (p : Projection) (o : DrawOptions) (drawn : IdSet) (u : Nat) (pen : Pen)
    (g : CallGroup) : Pen :=
  let (color, wheel) := siteColor pen.wheel o.edgeColor
  let edges := g.foldl (fun edges v =>
    if p.admits o drawn edges u v then edges ++ [⟨u, v, siteStyle g, color⟩] else edges) pen.edges
  ⟨wheel, edges⟩

/-- Draw the edges of an entity, if it has a node. -/
def drawCalls (p : Projection) (o : DrawOptions) (drawn : IdSet) (pen : Pen) (id : Nat)
    (e : Entity) : Pen :=
  if id ∈ drawn then e.calls.foldl (p.drawSite o drawn id) pen else pen

/-- The edges of a projection. -/
def edges (p : Projection) (o : DrawOptions) (drawn : IdSet) : List Edge :=
  (p.toList.foldl (fun pen x => p.drawCalls o drawn pen x.1 x.2) {}).edges

/-- The drawing of a projection. -/
def draw (p : Projection) (o : DrawOptions) : Drawing where
  name := o.graphName
  rankDir := o.rankDir
  clusters := (p.canvas o).clusters.clusters
  roots := (p.canvas o).clusters.roots
  edges := p.edges o (p.canvas o).drawn
  nested := (p.canvas o).clusters.nested

end Projection

end CallAtlas
