import Mathlib.Data.List.Nodup
import CallAtlas.Proofs.LaidClusters

/-!
# The clusters of a drawing

The clusters of a drawing nest two deep : the roots are the files, and a class stands inside one of
them. Each position is listed once, as a root or as the child of one root (`Drawing.IsForest`),
since no two frames stand for the same place and the home of each class has a frame. Around a class
stands the cluster of its home (`Projection.around_draw`). `Drawing.boxes` lists the clusters as
they are seen, by names instead of positions. Every place of a node has its cluster, so each entity
that is drawn has one node in one of them (`Projection.perm_nodes`).
-/

namespace CallAtlas

/-! ## The forest of clusters -/

namespace Drawing

/-- The positions nested in the cluster at a position. -/
def childrenAt (d : Drawing) (k : Nat) : List Nat :=
  d.clusters[k]?.elim [] (·.children)

/-- Clusters that nest two deep, each in one place. -/
structure IsForest (d : Drawing) : Prop where
  /-- Every position is listed exactly once, among the roots or among the children of one root. -/
  listed : (d.roots ++ d.roots.flatMap d.childrenAt).Perm (List.range d.clusters.length)
  /-- Nothing is nested in what is no root. -/
  shallow : ∀ k ∉ d.roots, d.childrenAt k = []
  /-- The roots are the files. -/
  files : ∀ k c, d.clusters[k]? = some c → (k ∈ d.roots ↔ c.place.isFile = true)

/-- The cluster around the cluster at a position. -/
def around? (d : Drawing) (position : Nat) : Option Cluster :=
  (d.parent? position).bind (d.clusters[·]?)

end Drawing

theorem Frame.outer_eq_none {f : Frame} : f.outer = none ↔ f.place.isFile = true := by
  simp [outer]

theorem Frame.outer_of_class {f : Frame} {c : Nat} (h : f.place = .classBody c) :
    f.outer = some (.file f.home) := by
  simp [outer, h, Place.isFile]

/-- What stands around a frame is a file. -/
theorem Frame.isFile_of_outer {f : Frame} {place : Place} (h : f.outer = some place) :
    place.isFile = true := by
  rw [outer] at h
  split at h
  · cases h
  · rw [← Option.some.inj h]
    rfl

namespace Projection

variable {p : Projection} {o : DrawOptions}

theorem getElem?_draw (p : Projection) (o : DrawOptions) (k : Nat) :
    (p.draw o).clusters[k]? = p.frames[k]?.map (p.clusterOf o) := by
  rw [clusters_draw, List.getElem?_map]

theorem map_place_clusters (p : Projection) (o : DrawOptions) :
    (p.draw o).clusters.map (·.place) = p.frames.map (·.place) := by
  rw [clusters_draw, List.map_map]
  rfl

theorem nodup_places_draw (p : Projection) (o : DrawOptions) :
    ((p.draw o).clusters.map (·.place)).Nodup := by
  rw [map_place_clusters]
  exact p.nodup_places

/-- A place has one position. -/
theorem position_unique {j k : Nat} {f g : Frame} (hj : p.frames[j]? = some f)
    (hk : p.frames[k]? = some g) (h : f.place = g.place) : j = k := by
  have hjk : (p.frames.map (·.place))[j]? = (p.frames.map (·.place))[k]? := by
    rw [List.getElem?_map, List.getElem?_map, hj, hk, Option.map_some, Option.map_some, h]
  have hlt : j < (p.frames.map (·.place)).length := by
    rw [List.length_map]
    exact (List.getElem?_eq_some_iff.mp hj).1
  exact (List.getElem?_inj hlt p.nodup_places).mp hjk

/-- What stands around a frame has a frame. -/
theorem exists_outer {g : Frame} (hg : g ∈ p.frames) {place : Place}
    (houter : g.outer = some place) :
    ∃ (j : Nat) (f : Frame), p.frames[j]? = some f ∧ f.place = place := by
  rw [Frame.outer] at houter
  split at houter
  · cases houter
  · obtain ⟨j, hj⟩ := List.mem_iff_getElem?.mp (home_mem_frames hg)
    exact ⟨j, _, hj, Option.some.inj houter⟩

theorem mem_roots_draw {k : Nat} :
    k ∈ (p.draw o).roots ↔ ∃ f, p.frames[k]? = some f ∧ f.outer = none := by
  simp only [roots_draw, mem_positions, Frame.outer_eq_none]

/-- A cluster holds the classes at home in the file that it stands for. -/
theorem mem_childrenAt_draw {j k : Nat} : k ∈ (p.draw o).childrenAt j ↔
    ∃ f g, p.frames[j]? = some f ∧ p.frames[k]? = some g ∧ g.outer = some f.place := by
  rw [Drawing.childrenAt, getElem?_draw]
  cases hf : p.frames[j]? with
  | none => simp
  | some f => simp [clusterOf, mem_positions]

theorem nodup_childrenAt_draw (p : Projection) (o : DrawOptions) (k : Nat) :
    ((p.draw o).childrenAt k).Nodup := by
  rw [Drawing.childrenAt, getElem?_draw]
  cases p.frames[k]? with
  | none => exact .nil
  | some f => exact nodup_positions (·.outer == some f.place) p.frames

/-- What has something nested in it is a root. -/
theorem mem_roots_of_mem_childrenAt {j k : Nat} (h : k ∈ (p.draw o).childrenAt j) :
    j ∈ (p.draw o).roots := by
  obtain ⟨f, g, hf, -, houter⟩ := mem_childrenAt_draw.mp h
  exact mem_roots_draw.mpr ⟨f, hf, Frame.outer_eq_none.mpr (Frame.isFile_of_outer houter)⟩

/-- No root is nested. -/
theorem notMem_childrenAt {j k : Nat} (h : k ∈ (p.draw o).roots) :
    k ∉ (p.draw o).childrenAt j := by
  intro hk
  obtain ⟨f, hf, hnone⟩ := mem_roots_draw.mp h
  obtain ⟨f', g, -, hg, hsome⟩ := mem_childrenAt_draw.mp hk
  rw [Option.some.inj (hg.symm.trans hf), hnone] at hsome
  cases hsome

/-- Nothing is nested in two clusters. -/
theorem parent_unique {i j k : Nat} (hi : k ∈ (p.draw o).childrenAt i)
    (hj : k ∈ (p.draw o).childrenAt j) : i = j := by
  obtain ⟨a, g, ha, hg, houter⟩ := mem_childrenAt_draw.mp hi
  obtain ⟨b, g', hb, hg', houter'⟩ := mem_childrenAt_draw.mp hj
  rw [Option.some.inj (hg'.symm.trans hg), houter] at houter'
  exact position_unique ha hb (Option.some.inj houter')

/-- The clusters of a drawing are a forest. -/
theorem isForest_draw (p : Projection) (o : DrawOptions) : (p.draw o).IsForest where
  listed := by
    have hroots : (p.draw o).roots.Nodup := by
      rw [roots_draw]
      exact nodup_positions _ _
    have hnested : ((p.draw o).roots.flatMap (p.draw o).childrenAt).Nodup := by
      refine List.nodup_flatMap.mpr ⟨fun j _ => p.nodup_childrenAt_draw o j, ?_⟩
      refine hroots.pairwise_of_forall_ne fun i _ j _ hne k hi hj => ?_
      exact hne (parent_unique hi hj)
    have hapart : (p.draw o).roots.Disjoint ((p.draw o).roots.flatMap (p.draw o).childrenAt) := by
      intro k hroot hk
      obtain ⟨j, -, hk⟩ := List.mem_flatMap.mp hk
      exact notMem_childrenAt hroot hk
    have hnodup := List.nodup_append'.mpr ⟨hroots, hnested, hapart⟩
    refine (List.perm_ext_iff_of_nodup hnodup List.nodup_range).mpr fun k => ?_
    rw [List.mem_append, List.mem_flatMap, List.mem_range, clusters_draw, List.length_map]
    constructor
    · rintro (hk | ⟨j, -, hk⟩)
      · obtain ⟨f, hf, -⟩ := mem_roots_draw.mp hk
        exact (List.getElem?_eq_some_iff.mp hf).1
      · obtain ⟨-, g, -, hg, -⟩ := mem_childrenAt_draw.mp hk
        exact (List.getElem?_eq_some_iff.mp hg).1
    · intro hk
      have hg := List.getElem?_eq_getElem hk
      cases houter : (p.frames[k]).outer with
      | none => exact .inl (mem_roots_draw.mpr ⟨_, hg, houter⟩)
      | some place =>
        obtain ⟨j, f, hf, rfl⟩ := exists_outer (List.getElem_mem hk) houter
        have hchild : k ∈ (p.draw o).childrenAt j := mem_childrenAt_draw.mpr ⟨f, _, hf, hg, houter⟩
        exact .inr ⟨j, mem_roots_of_mem_childrenAt hchild, hchild⟩
  shallow k hk :=
    List.eq_nil_iff_forall_not_mem.mpr fun _ hj => hk (mem_roots_of_mem_childrenAt hj)
  files k c hc := by
    rw [getElem?_draw, Option.map_eq_some_iff] at hc
    obtain ⟨f, hf, rfl⟩ := hc
    simp [mem_roots_draw, hf, Frame.outer_eq_none, clusterOf]

/-! ## The cluster around a cluster -/

/-- Around a class stands the cluster of its home, and around a file nothing. -/
theorem around_draw (p : Projection) (o : DrawOptions) {k : Nat} {g : Frame}
    (hg : p.frames[k]? = some g) : ((p.draw o).around? k).map (·.place) = g.outer := by
  have hholds : ∀ f, (p.clusterOf o f).children.contains k = true ↔ g.outer = some f.place := by
    intro f
    rw [List.contains_iff_mem, clusterOf, mem_positions]
    simp [hg]
  rw [Drawing.around?]
  cases hparent : (p.draw o).parent? k with
  | none =>
    rw [Drawing.parent?, List.findIdx?_eq_none_iff, clusters_draw] at hparent
    cases houter : g.outer with
    | none => rfl
    | some place =>
      obtain ⟨j, f, hf, rfl⟩ := exists_outer (List.mem_of_getElem? hg) houter
      have hmem := List.mem_map_of_mem (f := p.clusterOf o) (List.mem_of_getElem? hf)
      exact absurd ((hholds f).mpr houter) (Bool.eq_false_iff.mp (hparent _ hmem))
  | some j =>
    rw [Drawing.parent?, List.findIdx?_eq_some_iff_getElem] at hparent
    obtain ⟨hj, hc, -⟩ := hparent
    have hget := List.getElem?_eq_getElem hj
    rw [getElem?_draw, Option.map_eq_some_iff] at hget
    obtain ⟨f, hf, hcluster⟩ := hget
    rw [← hcluster] at hc
    rw [Option.bind_some, getElem?_draw, hf, (hholds f).mp hc]
    rfl

end Projection

/-! ## Boxes -/

namespace Drawing

/-- A cluster as it is seen : its name, its label, the name of the cluster around it, and its nodes
in order. -/
structure Box where
  name : String
  label : String
  outer : Option String
  nodes : List Node
  deriving DecidableEq, Repr

/-- Whether a box has a node. -/
def Box.isFilled (b : Box) : Bool :=
  !b.nodes.isEmpty

/-- The box with the nodes of some entities only. -/
def Box.within (keep : IdSet) (b : Box) : Box :=
  { b with nodes := b.nodes.filter (·.entity ∈ keep) }

/-- The nodes of a drawing, cluster by cluster. -/
def nodes (d : Drawing) : List Node :=
  d.clusters.flatMap (·.nodes)

/-- The clusters of a drawing as they are seen. -/
def boxes (d : Drawing) : List Box :=
  d.clusters.zipIdx.map fun x =>
    ⟨x.1.place.clusterName, x.1.label, (d.around? x.2).map (·.place.clusterName), x.1.nodes⟩

end Drawing

namespace Projection

/-- The box of a frame. -/
def boxOf (p : Projection) (o : DrawOptions) (f : Frame) : Drawing.Box :=
  ⟨f.place.clusterName, f.label, f.outer.map (·.clusterName), p.nodesAt o f.place⟩

/-- The boxes of a drawing, frame by frame. -/
theorem boxes_draw (p : Projection) (o : DrawOptions) :
    (p.draw o).boxes = p.frames.map (p.boxOf o) := by
  have hbox : ∀ x ∈ p.frames.zipIdx,
      (⟨x.1.place.clusterName, x.1.label, ((p.draw o).around? x.2).map (·.place.clusterName),
        p.nodesAt o x.1.place⟩ : Drawing.Box) = p.boxOf o x.1 := by
    intro x hx
    rw [boxOf, ← p.around_draw o (List.mem_zipIdx_iff_getElem?.mp hx), Option.map_map]
    rfl
  calc (p.draw o).boxes
      = p.frames.zipIdx.map fun x => ⟨x.1.place.clusterName, x.1.label,
          ((p.draw o).around? x.2).map (·.place.clusterName), p.nodesAt o x.1.place⟩ := by
        rw [Drawing.boxes, clusters_draw, List.zipIdx_map, List.map_map]
        rfl
    _ = (p.frames.zipIdx.map (·.1)).map (p.boxOf o) := by
        rw [List.map_congr_left hbox, List.map_map]
        rfl
    _ = p.frames.map (p.boxOf o) := by rw [List.zipIdx_map_fst]

/-! ## Nodes -/

/-- The entities with a node. -/
def drawn (p : Projection) (o : DrawOptions) : List (Nat × Entity) :=
  p.toList.filter fun x => isDrawn o x.2

theorem nodesAt_eq (p : Projection) (o : DrawOptions) (place : Place) : p.nodesAt o place =
    ((p.drawn o).filter fun x => placeOf x.1 x.2 == place).map fun x => nodeOf o x.1 x.2 := by
  rw [nodesAt, drawn]
  induction p.toList with
  | nil => rfl
  | cons x l ih =>
    rw [List.flatMap_cons, List.filter_append, List.map_append, ih, placed, List.filter_cons]
    split
    · rw [List.filter_singleton, List.filter_cons]
      cases placeOf x.1 x.2 == place <;> rfl
    · rfl

/-- A drawing has one node for each entity with a node. -/
theorem perm_nodes (p : Projection) (o : DrawOptions) :
    (p.draw o).nodes.Perm ((p.drawn o).map fun x => nodeOf o x.1 x.2) := by
  have hnodes : (p.draw o).nodes = ((p.frames.map (·.place)).flatMap fun place =>
      (p.drawn o).filter fun x => placeOf x.1 x.2 == place).map fun x => nodeOf o x.1 x.2 := by
    rw [List.map_flatMap, List.flatMap_map, Drawing.nodes, clusters_draw, List.flatMap_map]
    exact List.flatMap_congr fun f _ => p.nodesAt_eq o f.place
  have hplaces : ∀ x ∈ p.drawn o, placeOf x.1 x.2 ∈ p.frames.map (·.place) := fun x hx =>
    mem_places.mpr (houses_placeOf (List.mem_of_mem_filter hx))
  rw [hnodes]
  exact (perm_flatMap_filter (fun x : Nat × Entity => placeOf x.1 x.2) p.nodup_places hplaces).map _

end Projection

end CallAtlas
