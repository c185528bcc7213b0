import CallAtlas.Proofs.DotReading
import CallAtlas.Proofs.EntityImages

/-!
# The forest of clusters

The clusters of a drawing nest two deep, and each position is listed once (`Drawing.IsForest`), so
each cluster is written once (`Drawing.WritesEachOnce`). Every file, every class and every owner has
its cluster (`Projection.HasRooms`), and every entity its node in the cluster where it belongs
(`Projection.PlacesNodes`), whatever the owners are : shown or not, in another file, one inside the
other or in a circle.
-/

namespace CallAtlas

namespace Drawing

/-- The text of a drawing reads as blocks two deep, one for each cluster. -/
structure WritesEachOnce (d : Drawing) : Prop where
  read : Dot.read d.toDot = some d.sketch
  shallow : ∀ b ∈ d.sketch.blocks, ∀ k ∈ b.inside, k.inside = []
  once : ((d.sketch.blocks.flatMap fun b => b :: b.inside).map
    fun b => (b.name, b.label, b.nodes)).Perm (d.clusters.map heading)

theorem IsForest.writesEachOnce {d : Drawing} (h : d.IsForest) : d.WritesEachOnce where
  read := d.read_toDot_eq
  shallow _ hb _ hk := h.inside_inside hb hk
  once := h.perm_blocks

/-- The clusters at positions. -/
def clustersAt (d : Drawing) (positions : List Nat) : List Cluster :=
  positions.filterMap (d.clusters[·]?)

/-- Whether an entity has exactly one node, and this in the cluster of a place. -/
def Holds (d : Drawing) (i : Nat) (place : Place) : Prop :=
  (d.nodes.map (·.entity)).count i = 1 ∧
  ∃ k c, d.clusterOf? i = some k ∧ d.clusters[k]? = some c ∧ c.place = place

end Drawing

namespace Projection

variable {p : Projection} {o : DrawOptions}

/-! ## Files and classes -/

/-- The clusters are those that the entities need : a root for each file, and inside the roots a
cluster for each class and each owner. -/
structure HasRooms (p : Projection) (d : Drawing) : Prop where
  /-- One cluster for each place. -/
  distinct : (d.clusters.map (·.place)).Nodup
  /-- Roots are labelled with the files of the entities, each file once. -/
  labels : ((d.clustersAt d.roots).map (·.label)).Nodup
  files : ∀ path, path ∈ (d.clustersAt d.roots).map (·.label) ↔
    ∃ i e, p.get? i = some e ∧ e.file = path
  /-- Classes and owners have clusters. -/
  classes : ∀ c, .classBody c ∈ d.clusters.map (·.place) ↔
    (∃ e, p.get? c = some e ∧ e.kind = .classType) ∨ ∃ i e, p.get? i = some e ∧ e.owner = some c
  /-- The cluster of a class stands in a root, which is that of its file if the class is shown, and
  else that of the file of a member. -/
  nested : ∀ k b c, d.clusters[k]? = some b → b.place = .classBody c →
    ∃ j a, d.parent? k = some j ∧ j ∈ d.roots ∧ d.clusters[j]? = some a ∧
      (∀ e, p.get? c = some e → a.label = e.file) ∧
      (p.get? c = none → ∃ i e, p.get? i = some e ∧ e.owner = some c ∧ a.label = e.file)

/-- The home of a class is its file if the class is shown, and else the file of a member. -/
theorem home_of_class {f : Frame} (h : f ∈ p.frames) {c : Nat} (hc : f.place = .classBody c) :
    (∀ e, p.get? c = some e → f.home = e.file) ∧
    (p.get? c = none → ∃ i e, p.get? i = some e ∧ e.owner = some c ∧ f.home = e.file) := by
  obtain ⟨⟨i, e⟩, hx, hwhy, rfl⟩ := eq_classFrame_of_mem h hc
  have he := IdMap.get?_eq_some_iff.mpr hx
  refine ⟨fun b hb => ?_, fun hnone => ⟨i, e, he, ?_, ?_⟩⟩
  · rw [classFrame, homeOf, hb]
  · rcases hwhy with howner | ⟨-, rfl⟩
    · exact howner
    · rw [hnone] at he
      cases he
  · rw [classFrame, homeOf, hnone]

/-- The label of a file cluster is its file. -/
theorem label_of_file {f : Frame} (hf : f ∈ p.frames) {path : String}
    (hplace : f.place = .file path) : f.label = path := by
  rw [eq_fileFrame_of_mem hf hplace]
  rfl

/-- The labels of the roots are the files of the frames. -/
theorem rootLabels_draw (p : Projection) (o : DrawOptions) :
    ((p.draw o).clustersAt (p.draw o).roots).map (·.label) =
      (p.frames.filter (·.place.isFile)).map (·.label) := by
  have hget : (fun k => (p.draw o).clusters[k]?) = fun k : Nat =>
      p.frames[k]?.map (p.clusterOf o) :=
    funext (p.getElem?_draw o)
  rw [Drawing.clustersAt, hget, ← List.map_filterMap, roots_draw, filterMap_positions, List.map_map]
  rfl

/-- The frame of a root is that of the file with its label. -/
theorem place_of_root {f : Frame} (hf : f ∈ p.frames.filter (·.place.isFile)) :
    f ∈ p.frames ∧ f.place = .file f.label := by
  obtain ⟨hmem, hfile⟩ := List.mem_filter.mp hf
  cases hplace : f.place with
  | classBody c => simp [hplace, Place.isFile] at hfile
  | file path => exact ⟨hmem, by rw [label_of_file hmem hplace]⟩

theorem nodup_rootLabels (p : Projection) :
    ((p.frames.filter (·.place.isFile)).map (·.label)).Nodup := by
  refine (List.nodup_map_iff_inj_on (p.nodup_frames.filter _)).mpr fun f hf g hg hlabel => ?_
  obtain ⟨hf, hfplace⟩ := place_of_root hf
  obtain ⟨hg, hgplace⟩ := place_of_root hg
  rw [eq_fileFrame_of_mem hf hfplace, eq_fileFrame_of_mem hg hgplace, hlabel]

theorem mem_rootLabels {path : String} :
    path ∈ (p.frames.filter (·.place.isFile)).map (·.label) ↔ p.Houses (.file path) := by
  rw [← mem_places]
  constructor
  · intro h
    obtain ⟨f, hf, rfl⟩ := List.mem_map.mp h
    obtain ⟨hf, hplace⟩ := place_of_root hf
    exact List.mem_map.mpr ⟨f, hf, hplace⟩
  · intro h
    obtain ⟨f, hf, hplace⟩ := List.mem_map.mp h
    rw [← label_of_file hf hplace]
    exact List.mem_map_of_mem (List.mem_filter.mpr ⟨hf, by simp [hplace, Place.isFile]⟩)

theorem hasRooms_draw (p : Projection) (o : DrawOptions) : p.HasRooms (p.draw o) where
  distinct := p.nodup_places_draw o
  labels := by
    rw [rootLabels_draw]
    exact p.nodup_rootLabels
  files path := by
    rw [rootLabels_draw, mem_rootLabels]
    simp only [Houses, Prod.exists, IdMap.get?_eq_some_iff]
  classes c := by
    rw [map_place_clusters, mem_places]
    simp only [Houses, AsksFor, Prod.exists, IdMap.get?_eq_some_iff]
    constructor
    · rintro ⟨i, e, he, howner | ⟨hkind, rfl⟩⟩
      · exact .inr ⟨i, e, he, howner⟩
      · exact .inl ⟨e, he, hkind⟩
    · rintro (⟨e, he, hkind⟩ | ⟨i, e, he, howner⟩)
      · exact ⟨c, e, he, .inr ⟨hkind, rfl⟩⟩
      · exact ⟨i, e, he, .inl howner⟩
  nested k b c hb hplace := by
    rw [getElem?_draw, Option.map_eq_some_iff] at hb
    obtain ⟨f, hf, rfl⟩ := hb
    have hclass : f.place = .classBody c := hplace
    have haround := p.around_draw o hf
    rw [Frame.outer_of_class hclass, Drawing.around?, Option.map_eq_some_iff] at haround
    obtain ⟨a, ha, haplace⟩ := haround
    obtain ⟨j, hj, ha⟩ := Option.bind_eq_some_iff.mp ha
    have hroot : j ∈ (p.draw o).roots :=
      ((p.isForest_draw o).files j a ha).mpr (by rw [haplace]; rfl)
    have hlabel : a.label = f.home := by
      rw [getElem?_draw, Option.map_eq_some_iff] at ha
      obtain ⟨g, hg, rfl⟩ := ha
      exact label_of_file (List.mem_of_getElem? hg) haplace
    obtain ⟨hshown, hhidden⟩ := home_of_class (List.mem_of_getElem? hf) hclass
    refine ⟨j, a, hj, hroot, ha, ?_, ?_⟩
    · rw [hlabel]
      exact hshown
    · rw [hlabel]
      exact hhidden

/-! ## Nodes in their clusters -/

/-- Every entity has its node where it belongs, and there are no other nodes. -/
structure PlacesNodes (p : Projection) (o : DrawOptions) (d : Drawing) : Prop where
  classes : ∀ i e, p.get? i = some e → e.kind = .classType → o.suppressClasses = false →
    d.Holds i (.classBody i)
  members : ∀ i e, p.get? i = some e → e.kind ≠ .classType → ∀ c, e.owner = some c →
    d.Holds i (.classBody c)
  others : ∀ i e, p.get? i = some e → e.kind ≠ .classType → e.owner = none →
    d.Holds i (.file e.file)
  /-- Classes that are left out have no node. -/
  hidden : ∀ i e, p.get? i = some e → e.kind = .classType → o.suppressClasses = true →
    i ∉ d.nodes.map (·.entity)
  shown : ∀ i ∈ d.nodes.map (·.entity), ∃ e, p.get? i = some e

/-- A cluster has the node of an entity if it stands for the place of the entity. -/
theorem any_entity_iff {i : Nat} {e : Entity} (he : p.get? i = some e) (hdrawn : isDrawn o e = true)
    (f : Frame) : (p.clusterOf o f).nodes.any (·.entity == i) = true ↔ f.place = placeOf i e := by
  rw [clusterOf, nodesAt_eq, List.any_map, List.any_eq_true]
  constructor
  · rintro ⟨⟨j, b⟩, hx, hi⟩
    obtain ⟨hx, hplace⟩ := List.mem_filter.mp hx
    obtain rfl : j = i := by simpa [nodeOf] using hi
    have hb := IdMap.get?_eq_some_iff.mpr (List.mem_of_mem_filter hx)
    rw [Option.some.inj (he.symm.trans hb)]
    exact (beq_iff_eq.mp hplace).symm
  · intro hplace
    have hx : (i, e) ∈ p.drawn o := List.mem_filter.mpr ⟨IdMap.mem_of_get? he, hdrawn⟩
    exact ⟨(i, e), List.mem_filter.mpr ⟨hx, beq_iff_eq.mpr hplace.symm⟩, by simp [nodeOf]⟩

/-- An entity that is drawn has one node, in the cluster of its place. -/
theorem holds_placeOf {i : Nat} {e : Entity} (he : p.get? i = some e)
    (hdrawn : isDrawn o e = true) : (p.draw o).Holds i (placeOf i e) := by
  refine ⟨List.count_eq_one_of_mem (p.nodup_entities_draw o)
    (mem_entities_draw.mpr ⟨e, he, hdrawn⟩), ?_⟩
  obtain ⟨f, hf, hplace⟩ := List.mem_map.mp (mem_places.mpr (houses_placeOf (IdMap.mem_of_get? he)))
  obtain ⟨k, hk⟩ := List.mem_iff_getElem?.mp hf
  obtain ⟨hlt, hget⟩ := List.getElem?_eq_some_iff.mp hk
  refine ⟨k, p.clusterOf o f, ?_, by rw [getElem?_draw, hk]; rfl, hplace⟩
  rw [Drawing.clusterOf?, clusters_draw, List.findIdx?_map]
  refine List.findIdx?_eq_some_iff_getElem.mpr ⟨hlt, ?_, fun j hj hany => ?_⟩
  · rw [hget]
    exact (any_entity_iff he hdrawn f).mpr hplace
  · have hsame := (any_entity_iff he hdrawn _).mp hany
    have hposition := position_unique (List.getElem?_eq_getElem (Nat.lt_trans hj hlt)) hk
      (hsame.trans hplace.symm)
    omega

theorem placesNodes_draw (p : Projection) (o : DrawOptions) : p.PlacesNodes o (p.draw o) where
  classes i e he hkind ho := by
    have hplace : placeOf i e = .classBody i := by rw [placeOf, if_pos hkind]
    exact hplace ▸ holds_placeOf he (by simp [isDrawn, ho])
  members i e he hkind c hc := by
    have hplace : placeOf i e = .classBody c := by rw [placeOf, if_neg hkind, hc]
    exact hplace ▸ holds_placeOf he (by simp [isDrawn, hkind])
  others i e he hkind hnone := by
    have hplace : placeOf i e = .file e.file := by rw [placeOf, if_neg hkind, hnone]
    exact hplace ▸ holds_placeOf he (by simp [isDrawn, hkind])
  hidden i e he hkind ho hmem := by
    obtain ⟨b, hb, hdrawn⟩ := mem_entities_draw.mp hmem
    obtain rfl := Option.some.inj (he.symm.trans hb)
    simp [isDrawn, hkind, ho] at hdrawn
  shown i hi := by
    obtain ⟨e, he, -⟩ := mem_entities_draw.mp hi
    exact ⟨e, he⟩

/-- **The clusters of a drawing are a forest that holds every drawn entity once.** They nest two
deep and each is listed and written once; there is a root for each file and inside the roots a
cluster for each class and owner; and each entity has one node, in its own cluster, that of its
owner or that of its file. -/
theorem draw_forest (p : Projection) (o : DrawOptions) :
    (p.draw o).IsForest ∧ (p.draw o).WritesEachOnce ∧ p.HasRooms (p.draw o) ∧
      p.PlacesNodes o (p.draw o) :=
  ⟨p.isForest_draw o, (p.isForest_draw o).writesEachOnce, p.hasRooms_draw o, p.placesNodes_draw o⟩

end Projection

end CallAtlas
