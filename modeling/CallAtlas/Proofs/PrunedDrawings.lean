import CallAtlas.Proofs.DrawnEdges
import CallAtlas.Proofs.Reachability

/-!
# Drawing a part of a projection

A set of ids that has the owners of its members cuts a projection without taking a member out of its
class. The drawing of what is left is then the same part of the full drawing
(`Projection.DrawsPart`). Where a node stands is decided by the entity and its owner, and both are
left; which edges are drawn is decided by the two ends, also when calls are combined, and the style
of an edge by its whole call site.
-/

namespace CallAtlas

/-- Whether both ids of a pair are in a set. -/
def IdSet.hasBoth (keep : IdSet) (x : Nat × Nat) : Bool :=
  decide (x.1 ∈ keep) && decide (x.2 ∈ keep)

/-- Whether both ends of an edge are in a set. -/
def Edge.isWithin (keep : IdSet) (e : Edge) : Bool :=
  keep.hasBoth e.ends

namespace Projection

variable {p : Projection} {keep : IdSet}

/-- What is left of a projection when only some ids are kept. -/
abbrev part (p : Projection) (keep : IdSet) : Projection :=
  p.restrict keep

/-- Every owner of a shown entity is shown. -/
def OwnersShown (p : Projection) : Prop :=
  ∀ i e, p.get? i = some e → ∀ c, e.owner = some c → ∃ b, p.get? c = some b

theorem ownersShown_iff : p.OwnersShown ↔ ∀ c ∈ p.owners, (p.get? c).isSome := by
  simp only [Option.isSome_iff_exists]
  constructor
  · intro hp c hc
    obtain ⟨⟨i, e⟩, hx, hec⟩ := List.mem_filterMap.mp hc
    exact hp i e (IdMap.get?_eq_some_iff.mpr hx) c hec
  · intro hp i e he c hc
    exact hp c (List.mem_filterMap.mpr ⟨(i, e), IdMap.mem_of_get? he, hc⟩)

instance : Decidable p.OwnersShown :=
  decidable_of_iff _ ownersShown_iff.symm

theorem get?_part_of_mem {i : Nat} (hi : i ∈ keep) : (p.part keep).get? i = p.get? i := by
  rw [IdMap.get?_restrict, if_pos hi]

/-- What is left of shown owners is shown. -/
theorem ownersShown_part (hp : p.OwnersShown) (hkeep : p.OwnerClosed {i | i ∈ keep}) :
    (p.part keep).OwnersShown := by
  intro i e he c hc
  obtain ⟨he, hi⟩ := IdMap.mem_restrict.mp (IdMap.mem_of_get? he)
  have he := IdMap.get?_eq_some_iff.mpr he
  rw [get?_part_of_mem (hkeep i hi e he c hc)]
  exact hp i e he c hc

/-! ## Clusters -/

/-- A class cluster has the name and the file of the class, if all owners are shown. -/
theorem exists_shown_class (hp : p.OwnersShown) {f : Frame} (h : f ∈ p.frames) {c : Nat}
    (hc : f.place = .classBody c) :
    ∃ e, p.get? c = some e ∧ f.label = e.name ∧ f.home = e.file := by
  obtain ⟨⟨i, e⟩, hx, hwhy, hclass⟩ := eq_classFrame_of_mem h hc
  have he := IdMap.get?_eq_some_iff.mpr hx
  have hshown : ∃ b, p.get? c = some b := by
    rcases hwhy with howner | ⟨-, rfl⟩
    · exact hp i e he c howner
    · exact ⟨e, he⟩
  obtain ⟨b, hb⟩ := hshown
  refine ⟨b, hb, ?_⟩
  rw [hclass, classFrame, homeOf, hb]
  exact ⟨rfl, rfl⟩

/-- The cluster of a class stands in that of the file of the class, if all owners are shown. -/
theorem exists_class_around {o : DrawOptions} (hp : p.OwnersShown) {k : Nat} {b : Cluster}
    (hb : (p.draw o).clusters[k]? = some b) {c : Nat} (hc : b.place = .classBody c) :
    ∃ e a, p.get? c = some e ∧ b.label = e.name ∧ (p.draw o).around? k = some a ∧
      a.place = .file e.file := by
  rw [getElem?_draw, Option.map_eq_some_iff] at hb
  obtain ⟨f, hf, rfl⟩ := hb
  obtain ⟨e, he, hlabel, hhome⟩ := exists_shown_class hp (List.mem_of_getElem? hf) hc
  have haround := p.around_draw o hf
  rw [Frame.outer_of_class hc, hhome] at haround
  obtain ⟨a, ha, haplace⟩ := Option.map_eq_some_iff.mp haround
  exact ⟨e, a, he, hlabel, ha, haplace⟩

/-- The frame of a place, if all owners are shown. -/
def frameAt (p : Projection) : Place → Frame
  | .file path => fileFrame path
  | .classBody c => p.classFrame c ""

theorem eq_frameAt (hp : p.OwnersShown) {f : Frame} (h : f ∈ p.frames) : f = p.frameAt f.place := by
  cases hplace : f.place with
  | file path => exact eq_fileFrame_of_mem h hplace
  | classBody c =>
    obtain ⟨e, he, hlabel, hhome⟩ := exists_shown_class hp h hplace
    simp only [frameAt, classFrame, homeOf, he, ← hplace, ← hlabel, ← hhome]

/-- The place of a node has one frame only. -/
theorem mem_frames_iff (hp : p.OwnersShown) {i : Nat} {e : Entity} (hx : (i, e) ∈ p.toList)
    {f : Frame} (hf : f.place = placeOf i e) : f ∈ p.frames ↔ f = p.frameAt (placeOf i e) := by
  constructor
  · intro h
    rw [← hf]
    exact eq_frameAt hp h
  · rintro rfl
    obtain ⟨g, hg, hplace⟩ := List.mem_map.mp (mem_places.mpr (houses_placeOf hx))
    rwa [eq_frameAt hp hg, hplace] at hg

/-- What is left keeps the frame around its node. -/
theorem frameAt_part (hkeep : p.OwnerClosed {i | i ∈ keep}) {i : Nat} {e : Entity}
    (hx : (i, e) ∈ (p.part keep).toList) :
    (p.part keep).frameAt (placeOf i e) = p.frameAt (placeOf i e) := by
  obtain ⟨hx, hi⟩ := IdMap.mem_restrict.mp hx
  have hclass : ∀ c, c ∈ keep →
      (p.part keep).frameAt (.classBody c) = p.frameAt (.classBody c) := by
    intro c hc
    rw [frameAt, frameAt, classFrame, classFrame, homeOf, homeOf, get?_part_of_mem hc]
  rw [placeOf]
  split
  · exact hclass i hi
  · cases howner : e.owner with
    | none => rfl
    | some c => exact hclass c (hkeep i hi e (IdMap.get?_eq_some_iff.mpr hx) c howner)

/-! ## Boxes -/

theorem nodesAt_part (p : Projection) (keep : IdSet) (o : DrawOptions) (place : Place) :
    (p.part keep).nodesAt o place = (p.nodesAt o place).filter (·.entity ∈ keep) := by
  have hdrawn : (p.part keep).drawn o = (p.drawn o).filter (·.1 ∈ keep) := List.filter_comm ..
  rw [nodesAt_eq, nodesAt_eq, hdrawn, List.filter_map, List.filter_comm]
  rfl

theorem boxOf_part (p : Projection) (keep : IdSet) (o : DrawOptions) (f : Frame) :
    (p.part keep).boxOf o f = (p.boxOf o f).within keep := by
  rw [boxOf, nodesAt_part]
  rfl

/-- A box with a node belongs to the place of an entity. -/
theorem exists_entity_of_isFilled {o : DrawOptions} {f : Frame}
    (h : (p.boxOf o f).isFilled = true) :
    ∃ i e, (i, e) ∈ p.toList ∧ f.place = placeOf i e := by
  rw [Drawing.Box.isFilled, Bool.not_eq_true', List.isEmpty_eq_false_iff_exists_mem] at h
  obtain ⟨n, hn⟩ := h
  rw [boxOf, nodesAt_eq] at hn
  obtain ⟨⟨i, e⟩, hx, -⟩ := List.mem_map.mp hn
  obtain ⟨hx, hplace⟩ := List.mem_filter.mp hx
  exact ⟨i, e, List.mem_of_mem_filter hx, (beq_iff_eq.mp hplace).symm⟩

/-- The clusters that have a node left are the same with and without the rest, up to their order. -/
theorem perm_boxes (hp : p.OwnersShown) (hkeep : p.OwnerClosed {i | i ∈ keep}) (o : DrawOptions) :
    (((p.part keep).draw o).boxes.filter (·.isFilled)).Perm
      (((p.draw o).boxes.map (·.within keep)).filter (·.isFilled)) := by
  have hbox : Drawing.Box.within keep ∘ p.boxOf o = (p.part keep).boxOf o :=
    funext fun f => (p.boxOf_part keep o f).symm
  rw [boxes_draw, boxes_draw, List.map_map, hbox, List.filter_map, List.filter_map]
  refine List.Perm.map _ ?_
  rw [List.perm_ext_iff_of_nodup ((nodup_frames _).filter _) ((nodup_frames _).filter _)]
  intro f
  rw [List.mem_filter, List.mem_filter]
  refine and_congr_left fun hfilled => ?_
  obtain ⟨i, e, hx, hplace⟩ := exists_entity_of_isFilled hfilled
  rw [mem_frames_iff (ownersShown_part hp hkeep) hx hplace,
    mem_frames_iff hp (IdMap.mem_restrict.mp hx).1 hplace, frameAt_part hkeep hx]

/-! ## Edges -/

theorem flatMap_filter_eq {α β : Type} (q : α → Bool) (f : α → List β) (l : List α) :
    (l.filter q).flatMap f = l.flatMap fun a => if q a then f a else [] := by
  induction l with
  | nil => rfl
  | cons a l ih => cases hq : q a <;> simp [hq, ih]

/-- The sites that are left are those of the entities that are left. -/
theorem sites_part (p : Projection) (keep : IdSet) (o : DrawOptions) :
    (p.part keep).sites o = (p.sites o).filter (·.1 ∈ keep) := by
  have hlist : (p.part keep).toList = p.toList.filter (·.1 ∈ keep) := rfl
  rw [sites, sites, hlist, flatMap_filter_eq, List.filter_flatMap]
  refine List.flatMap_congr fun x _ => ?_
  by_cases hx : x.1 ∈ keep
  · rw [if_pos (by simpa using hx)]
    split
    · simp [List.filter_map, hx, Function.comp_def]
    · rfl
  · rw [if_neg (by simpa using hx)]
    split
    · simp [List.filter_map, hx, Function.comp_def]
    · rfl

theorem shows_part (p : Projection) (keep : IdSet) (o : DrawOptions) (u : Nat) :
    (p.part keep).shows o u = fun v => decide (v ∈ keep) && p.shows o u v := by
  funext v
  rw [shows, shows, IdMap.get?_restrict]
  by_cases hv : v ∈ keep
  · simp [hv]
  · simp [hv]

/-- The links that are left are those with both ends left. -/
theorem callLinks_part (p : Projection) (keep : IdSet) (o : DrawOptions) :
    (p.part keep).callLinks o = (p.callLinks o).filter (keep.hasBoth ∘ linkEnds) := by
  rw [callLinks, callLinks, sites_part, flatMap_filter_eq, List.filter_flatMap]
  refine List.flatMap_congr fun site _ => ?_
  have hends : ((keep.hasBoth ∘ linkEnds) ∘ fun v => (site.1, v, siteStyle site.2)) =
      fun v => decide (site.1 ∈ keep) && decide (v ∈ keep) := rfl
  rw [siteLinks, siteLinks, List.filter_map, List.filter_filter, shows_part, hends]
  by_cases hu : site.1 ∈ keep
  · simp [hu]
  · simp [hu]

theorem combine_filter {α : Type} (o : DrawOptions) (ends : α → Nat × Nat) (q : Nat × Nat → Bool)
    (l : List α) : combine o ends (l.filter (q ∘ ends)) = (combine o ends l).filter (q ∘ ends) := by
  rw [combine, combine]
  split
  · exact (filter_keepFirst ends q l).symm
  · rfl

/-- The edges that are left are those with both ends left, colours apart. -/
theorem links_part (p : Projection) (keep : IdSet) (o : DrawOptions) :
    ((p.part keep).draw o).edges.map Edge.link =
      ((p.draw o).edges.filter (·.isWithin keep)).map Edge.link := by
  have hwithin : Edge.isWithin keep = (keep.hasBoth ∘ linkEnds) ∘ Edge.link := rfl
  rw [links_edges, callLinks_part, combine_filter, ← links_edges, hwithin, List.filter_map]

/-- Edges of one colour are known by their links. -/
theorem eq_of_links_eq {color : String} {es fs : List Edge} (hes : ∀ e ∈ es, e.color = color)
    (hfs : ∀ e ∈ fs, e.color = color) (h : es.map Edge.link = fs.map Edge.link) : es = fs := by
  have hcolored : ∀ l : List Edge, (∀ e ∈ l, e.color = color) →
      l = (l.map Edge.link).map fun x => ⟨x.1, x.2.1, x.2.2, color⟩ := by
    intro l hl
    rw [List.map_map]
    refine (List.map_id l).symm.trans (List.map_congr_left fun e he => ?_)
    rw [← hl e he]
    rfl
  rw [hcolored es hes, hcolored fs hfs, h]

/-! ## Drawings -/

/-- The drawing of what is left of `p` is a part of the drawing of `p`. -/
structure DrawsPart (p : Projection) (o : DrawOptions) (keep : IdSet) : Prop where
  /-- The clusters with nodes, up to their order : each has its name, its label and the name of the
  cluster around it, and those of its nodes that are left, in their order. -/
  boxes : (((p.part keep).draw o).boxes.filter (·.isFilled)).Perm
    (((p.draw o).boxes.map (·.within keep)).filter (·.isFilled))
  /-- The edges with both ends left, in their order and style. -/
  links : ((p.part keep).draw o).edges.map Edge.link =
    ((p.draw o).edges.filter (·.isWithin keep)).map Edge.link
  /-- With a fixed colour the edges are the same. -/
  colors : ∀ color, o.edgeColor = .fixed color →
    ((p.part keep).draw o).edges = (p.draw o).edges.filter (·.isWithin keep)
  /-- Every class cluster is that of a shown entity, never one under a bare id, and stands in the
  cluster of the file of the entity. -/
  classes : ∀ k b c, ((p.part keep).draw o).clusters[k]? = some b → b.place = .classBody c →
    ∃ e a, (p.part keep).get? c = some e ∧ b.label = e.name ∧
      ((p.part keep).draw o).around? k = some a ∧ a.place = .file e.file

/-- **A pruned drawing is a part of the full one.** It is so for every set of ids that has the
owners of its members, and what is retained for a selection is such a set. -/
theorem draw_part (p : Projection) (hp : p.OwnersShown) (o : DrawOptions) :
    (∀ keep : IdSet, p.OwnerClosed {i | i ∈ keep} → p.DrawsPart o keep) ∧
    ∀ s : IdSet, p.OwnerClosed {i | i ∈ p.retained s} ∧ p.DrawsPart o (p.retained s) := by
  have hpart : ∀ keep : IdSet, p.OwnerClosed {i | i ∈ keep} → p.DrawsPart o keep := by
    intro keep hkeep
    refine ⟨perm_boxes hp hkeep o, p.links_part keep o, fun color hcolor => ?_,
      fun k b c hb hc => exists_class_around (ownersShown_part hp hkeep) hb hc⟩
    refine eq_of_links_eq (fun e he => color_of_fixed _ o hcolor he) (fun e he => ?_)
      (p.links_part keep o)
    exact p.color_of_fixed o hcolor (List.mem_of_mem_filter he)
  have hretained : ∀ s : IdSet, p.OwnerClosed {i | i ∈ p.retained s} := fun s =>
    (p.isLeast_retained s).1.owners
  exact ⟨hpart, fun s => ⟨hretained s, hpart _ (hretained s)⟩⟩

/-- A class with a method that calls itself and one of two functions named `log`, and a caller of
the method in another file. -/
def shop : Projection where
  toList := [
    (1, ⟨"Cart:", "Cart", .classType, "shop.cart", "shop.cart", none, []⟩),
    (2, ⟨"add", "add", .method, "shop.cart", "shop.cart.Cart", some 1, [[3, 4], [2], [3]]⟩),
    (3, ⟨"log()", "log", .function, "shop.log", "shop.log", none, []⟩),
    (4, ⟨"log()", "log", .function, "shop.cart", "shop.cart", none, []⟩),
    (5, ⟨"main()", "main", .function, "shop.main", "shop.main", none, [[2]]⟩)]
  ascending := by decide

/-- Around `main` the method stays in its class, and its ambiguous call stays dashed. -/
theorem draw_part_shop :
    let o : DrawOptions := { combineCalls := true }
    let keep : IdSet := ⟨[1, 2, 3, 5], by decide⟩
    shop.OwnersShown ∧ shop.OwnerClosed {i | i ∈ keep} ∧ shop.DrawsPart o keep ∧
      shop.DrawsPart o (shop.retained {5}) ∧
      ((shop.part keep).draw o).edges.map Edge.link =
        [(2, 3, .dashed), (2, 2, .solid), (5, 2, .solid)] := by
  intro o keep
  have hshown : shop.OwnersShown := by decide
  have hclosed : shop.OwnerClosed {i | i ∈ keep} := by decide
  obtain ⟨hpart, hretained⟩ := draw_part shop hshown o
  exact ⟨hshown, hclosed, hpart keep hclosed, (hretained {5}).2, by decide⟩

end Projection

end CallAtlas
