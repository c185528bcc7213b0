import CallAtlas.Proofs.ShownEntities

/-!
# Reading graph documents back

A document lists entities and call sites apart. `Report.GraphDocument.toProjection` puts them
together again : one entity for each node, with the candidates of the call sites that name it as
their caller. A document of a projection is orderly, and the orderly documents are just those of
projections (`Report.GraphDocument.isOrderly_iff`). So a document loses nothing
(`Report.GraphDocument.ofProjection_loses_nothing`) : entities without calls, sites without
candidates and callees that are not shown all come back.
-/

namespace CallAtlas

namespace IdMap

variable {α : Type}

theorem insertAscending_of_lt {i : Nat} (a : α) : {l : List (Nat × α)} → (∀ x ∈ l, x.1 < i) →
    insertAscending i a l = l ++ [(i, a)]
  | [], _ => rfl
  | e :: es, h => by
    have he : e.1 < i := h e List.mem_cons_self
    have ih := insertAscending_of_lt a fun x hx => h x (List.mem_cons_of_mem _ hx)
    rw [insertAscending, if_neg (by omega), if_neg (by omega), ih, List.cons_append]

/-- Ascending entries stay as they are. -/
theorem toList_ofList {es : List (Nat × α)} (h : es.Pairwise (·.1 < ·.1)) :
    (ofList es).toList = es := by
  induction es using List.reverseRecOn with
  | nil => rfl
  | append_singleton es e ih =>
    obtain ⟨hes, -, hlast⟩ := List.pairwise_append.mp h
    have hlt : ∀ x ∈ (ofList es).toList, x.1 < e.1 := by
      rw [ih hes]
      exact fun x hx => hlast x hx e (List.mem_singleton_self e)
    rw [ofList_concat]
    exact (insertAscending_of_lt e.2 hlt).trans (congrArg (· ++ [e]) (ih hes))

end IdMap

namespace Report.GraphDocument

/-! ## Orderly documents -/

variable (d : GraphDocument) (p : Projection)

/-- The ids of the nodes. -/
def ids : List Nat :=
  d.nodes.map (·.id)

/-- The call sites of a caller. -/
def sitesOf (i : Nat) : List CallSite :=
  d.callSites.filter (·.caller == i)

/-- Nodes by ascending id, each once, and call sites caller by caller in the order of the nodes,
numbered from zero. -/
structure IsOrderly : Prop where
  nodes : d.ids.Pairwise (· < ·)
  /-- Every caller is a node. -/
  callers : ∀ s ∈ d.callSites, s.caller ∈ d.ids
  /-- Callers appear by ascending id. -/
  ascending : (d.callSites.map (·.caller)).Pairwise (· ≤ ·)
  /-- The call sites of a caller stand together. -/
  together : d.callSites = d.ids.flatMap d.sitesOf
  numbered : ∀ i, (d.sitesOf i).map (·.sequence) = List.range (d.sitesOf i).length
  ambiguous : ∀ s ∈ d.callSites, s.ambiguous = true ↔ 1 < s.candidates.length

variable {d p}

theorem ids_ofProjection : (ofProjection p).ids = p.ids :=
  List.map_map

theorem mem_callSites {s : CallSite} (h : s ∈ (ofProjection p).callSites) :
    ∃ x ∈ p.toList, s.caller = x.1 ∧ ∃ g ∈ x.2.calls, s.candidates = g ∧
      s.ambiguous = g.isAmbiguous := by
  obtain ⟨x, hx, hs⟩ := List.mem_flatMap.mp h
  obtain ⟨⟨g, k⟩, hg, rfl⟩ := List.mem_map.mp hs
  exact ⟨x, hx, rfl, g, (List.mem_zipIdx' hg).2 ▸ List.getElem_mem _, rfl, rfl⟩

theorem sitesOf_ofProjection {x : Nat × Entity} (hx : x ∈ p.toList) :
    (ofProjection p).sitesOf x.1 = sites x.1 x.2 := by
  rw [sitesOf, callSites_of_caller, IdMap.get?_eq_some_iff.mpr hx, Option.elim_some]

theorem isOrderly_ofProjection (p : Projection) : (ofProjection p).IsOrderly where
  nodes := by
    rw [ids_ofProjection, IdMap.ids, List.pairwise_map]
    exact p.ascending
  callers s hs := by
    obtain ⟨x, hx, hcaller, -⟩ := mem_callSites hs
    rw [ids_ofProjection, hcaller]
    exact List.mem_map_of_mem hx
  ascending := by
    have hcaller : ∀ (x : Nat × Entity), ∀ s ∈ sites x.1 x.2, s.caller = x.1 := by
      intro x s hs
      obtain ⟨g, -, rfl⟩ := List.mem_map.mp hs
      rfl
    rw [List.pairwise_map, ofProjection, List.pairwise_flatMap]
    refine ⟨fun x _ => List.pairwise_of_forall_mem_list ?_, p.ascending.imp fun hlt s hs t ht => ?_⟩
    · intro s hs t ht
      exact Nat.le_of_eq ((hcaller x s hs).trans (hcaller x t ht).symm)
    · rw [hcaller _ s hs, hcaller _ t ht]
      exact Nat.le_of_lt hlt
  together := by
    rw [ids_ofProjection, IdMap.ids, List.flatMap_map]
    exact List.flatMap_congr fun x hx => (sitesOf_ofProjection hx).symm
  numbered i := by
    rw [sitesOf, callSites_of_caller]
    cases p.get? i with
    | none => rfl
    | some e =>
      rw [Option.elim_some, sites, List.map_map, List.length_map, List.length_zipIdx]
      exact (List.zipIdx_map_snd ..).trans List.range_eq_range'.symm
  ambiguous s hs := by
    obtain ⟨x, -, -, g, -, hg, hs⟩ := mem_callSites hs
    rw [hs, hg, CallGroup.isAmbiguous, decide_eq_true_iff]

/-! ## Projections from documents -/

/-- The entity of a node, with the candidates of its call sites in order. -/
def entityOf (d : GraphDocument) (n : GraphNode) : Entity where
  name := n.label
  baseName := n.name
  kind := n.kind
  file := n.module
  importPath := n.importPath
  owner := n.owner
  calls := (d.sitesOf n.id).map (·.candidates)

/-- The projection that a document describes. -/
def toProjection (d : GraphDocument) : Projection :=
  IdMap.ofList (d.nodes.map fun n => (n.id, d.entityOf n))

theorem toProjection_ofProjection (p : Projection) : (ofProjection p).toProjection = p := by
  have hentries : ((ofProjection p).nodes.map fun n => (n.id, (ofProjection p).entityOf n)) =
      p.toList := by
    rw [ofProjection, List.map_map]
    refine (List.map_congr_left fun x hx => ?_).trans (List.map_id _)
    have hcalls : ((ofProjection p).sitesOf x.1).map (·.candidates) = x.2.calls := by
      rw [sitesOf_ofProjection hx, sites, List.map_map]
      exact List.zipIdx_map_fst ..
    exact Prod.ext rfl (congrArg (Entity.mk _ _ _ _ _ _) hcalls)
  rw [toProjection, hentries]
  exact IdMap.eq_of_toList (IdMap.toList_ofList p.ascending)

/-- In an orderly document the sites of an entity are those of its node. -/
theorem sites_entityOf (hd : d.IsOrderly) (n : GraphNode) :
    sites n.id (d.entityOf n) = d.sitesOf n.id := by
  refine List.ext_getElem (by simp [sites, entityOf]) fun k hk hk' => ?_
  obtain ⟨hmem, hcaller⟩ := List.mem_filter.mp (List.getElem_mem hk')
  have hsequence : ((d.sitesOf n.id)[k]).sequence = k := by
    simpa [hk'] using congrArg (·[k]?) (hd.numbered n.id)
  have hambiguous : ((d.sitesOf n.id)[k]).candidates.isAmbiguous =
      ((d.sitesOf n.id)[k]).ambiguous := by
    rw [CallGroup.isAmbiguous, Bool.eq_iff_iff, decide_eq_true_iff, hd.ambiguous _ hmem]
  simp only [sites, entityOf, List.getElem_map, List.getElem_zipIdx, Nat.zero_add, hambiguous]
  exact congrArg₂ (CallSite.mk · · _ _) (beq_iff_eq.mp hcaller).symm hsequence.symm

/-- An orderly document is that of the projection it describes. -/
theorem ofProjection_toProjection (hd : d.IsOrderly) : ofProjection d.toProjection = d := by
  have hentries : d.toProjection.toList = d.nodes.map fun n => (n.id, d.entityOf n) := by
    refine IdMap.toList_ofList ?_
    have hids := hd.nodes
    rw [ids, List.pairwise_map] at hids
    exact List.pairwise_map.mpr hids
  have hnodes : (ofProjection d.toProjection).nodes = d.nodes := by
    rw [ofProjection, hentries, List.map_map]
    exact List.map_id _
  have hsites : (ofProjection d.toProjection).callSites = d.callSites := by
    rw [ofProjection, hentries, List.flatMap_map, hd.together, ids, List.flatMap_map]
    exact List.flatMap_congr fun n _ => sites_entityOf hd n
  exact congrArg₂ GraphDocument.mk hnodes hsites

/-- The documents of projections are the orderly ones. -/
theorem isOrderly_iff : d.IsOrderly ↔ ofProjection d.toProjection = d :=
  ⟨ofProjection_toProjection, fun h => h ▸ isOrderly_ofProjection _⟩

/-- **The document of a projection loses nothing.** The projection can be rebuilt from it, so
projections with the same document are the same. The document lists each entity once and by
ascending id, and the call sites of each caller together and in order. -/
theorem ofProjection_loses_nothing (p : Projection) :
    (ofProjection p).toProjection = p ∧ (ofProjection p).ids = p.ids ∧ (ofProjection p).IsOrderly ∧
    ∀ q : Projection, ofProjection p = ofProjection q ↔ p = q := by
  refine ⟨toProjection_ofProjection p, ids_ofProjection, isOrderly_ofProjection p, fun q =>
    ⟨fun h => ?_, fun h => ?_⟩⟩
  · rw [← toProjection_ofProjection p, h, toProjection_ofProjection]
  · rw [h]

end Report.GraphDocument

end CallAtlas
