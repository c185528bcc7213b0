import CallAtlas.Drawing.Options

/-!
# Drawings

A drawing puts nodes into clusters. There is a cluster for each file and one for each class, and the
cluster of a class stands inside that of a file. Clusters are listed in the order in which they were
first needed. The nesting is kept by positions in that list : a drawing lists its roots, and each
cluster what is nested in it. What is nested in a cluster comes after it, so the nesting ends.
-/

namespace CallAtlas

/-- What a cluster stands for. -/
inductive Place where
  | file (path : String)
  | classBody (id : Nat)
  deriving DecidableEq, Repr

/-- The name of the cluster of a place. -/
def Place.clusterName : Place → String
  | .file path => "cluster_" ++ path
  | .classBody id => "cluster_class_" ++ toString id

/-- Whether a place is a file. -/
def Place.isFile : Place → Bool
  | .file _ => true
  | .classBody _ => false

/-- The node of an entity. -/
structure Node where
  entity : Nat
  label : String
  highlighted : Bool
  deriving DecidableEq, Repr

/-- A cluster, the nodes directly in it, and the positions of the clusters nested in it. -/
structure Cluster where
  place : Place
  label : String
  nodes : List Node := []
  children : List Nat := []
  deriving DecidableEq, Repr

/-- What is nested in a cluster comes after it. -/
def IsNested (clusters : List Cluster) : Prop :=
  ∀ (i : Nat) (c : Cluster), clusters[i]? = some c → ∀ k ∈ c.children, i < k

/-- How an edge is drawn : dashed for an ambiguous call. -/
inductive EdgeStyle where
  | solid
  | dashed
  deriving DecidableEq, Repr

/-- The word for a style. -/
def EdgeStyle.name : EdgeStyle → String
  | .solid => "solid"
  | .dashed => "dashed"

/-- An edge from a caller to a possible callee. -/
structure Edge where
  source : Nat
  target : Nat
  style : EdgeStyle
  color : String
  deriving DecidableEq, Repr

/-- Whether an edge goes from `u` to `v`. -/
def Edge.joins (e : Edge) (u v : Nat) : Bool :=
  e.source == u && e.target == v

/-- A drawn call graph. The roots are the positions of the file clusters. -/
structure Drawing where
  name : String
  rankDir : RankDir
  clusters : List Cluster
  roots : List Nat
  edges : List Edge
  nested : IsNested clusters
  deriving DecidableEq, Repr

namespace Drawing

/-- Fewer clusters are left after what is nested in a cluster. -/
theorem left_lt_of_mem_children {d : Drawing} {i k : Nat} {c : Cluster}
    (hc : d.clusters[i]? = some c) (hk : k ∈ c.children) :
    d.clusters.length - k < d.clusters.length - i := by
  have hlater : i < k := d.nested i c hc k hk
  have hi : i < d.clusters.length := (List.getElem?_eq_some_iff.mp hc).1
  omega

/-- The position of the cluster around a cluster. -/
def parent? (d : Drawing) (position : Nat) : Option Nat :=
  d.clusters.findIdx? (·.children.contains position)

/-- The node of an entity. -/
def node? (d : Drawing) (id : Nat) : Option Node :=
  (d.clusters.flatMap (·.nodes)).find? (·.entity == id)

/-- The number of nodes. -/
def nodeCount (d : Drawing) : Nat :=
  (d.clusters.flatMap (·.nodes)).length

/-- The position of the cluster with the node of an entity. -/
def clusterOf? (d : Drawing) (id : Nat) : Option Nat :=
  d.clusters.findIdx? (·.nodes.any (·.entity == id))

end Drawing

end CallAtlas
