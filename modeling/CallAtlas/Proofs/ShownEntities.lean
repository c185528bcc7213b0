import CallAtlas.Proofs.CallGroups
import CallAtlas.Proofs.CatalogRuns
import CallAtlas.Report.GraphDocument

/-!
# What a projection shows

An entity is shown if the file of its row is known, with the groups of its own calls
(`Catalog.get?_project`). The graph document of a projection lists the call sites of an id in the
order of its groups, numbered from zero (`Report.GraphDocument.callSites_of_caller`).
-/

namespace CallAtlas

namespace IdMap

variable {α : Type}

theorem find?_insertAscending (i j : Nat) (a : α) : (l : List (Nat × α)) →
    (insertAscending i a l).find? (·.1 == j) = if j = i then some (i, a) else l.find? (·.1 == j)
  | [] => by
    by_cases h : j = i
    · simp [insertAscending, h]
    · simp [insertAscending, h, Ne.symm h]
  | e :: es => by
    have ih := find?_insertAscending i j a es
    rw [insertAscending]
    by_cases h : j = i
    · subst h
      split
      · simp
      · split
        · simp
        · rename_i hlt hne
          have he : (e.1 == j) = false := by simpa using Ne.symm hne
          simp [he, ih]
    · have hi : (i == j) = false := by simpa using Ne.symm h
      rw [if_neg h] at ih ⊢
      split
      · simp [List.find?_cons, hi]
      · split
        · rename_i hlt heq
          simp [hi, ← heq]
        · simp only [List.find?_cons, ih]

theorem get?_insert (m : IdMap α) (i j : Nat) (a : α) :
    (m.insert i a).get? j = if j = i then some a else m.get? j := by
  rw [get?, insert, find?_insertAscending, get?]
  split <;> rfl

theorem ofList_concat (es : List (Nat × α)) (e : Nat × α) :
    ofList (es ++ [e]) = (ofList es).insert e.1 e.2 := by
  simp [ofList]

/-- The last entry of an id counts. -/
theorem get?_ofList (es : List (Nat × α)) (i : Nat) :
    (ofList es).get? i = (es.filter (·.1 == i)).getLast?.map (·.2) := by
  induction es using List.reverseRecOn with
  | nil => rfl
  | append_singleton es e ih =>
    rw [ofList_concat, get?_insert, List.filter_append]
    by_cases h : i = e.1
    · simp [h]
    · simp [h, Ne.symm h, ih]

theorem nodup_ids (m : IdMap α) : (m.toList.map (·.1)).Nodup := by
  rw [List.nodup_iff_pairwise_ne, List.pairwise_map]
  exact m.ascending.imp fun h => Nat.ne_of_lt h

end IdMap

namespace Catalog

/-! ## The shown entities -/

/-- The entry of a row, with groups given for each id. -/
def entryOf (c : Catalog) (groups : Nat → List CallGroup) (e : EntityRow) : Option (Nat × Entity) :=
  (c.file? e.fileId).map fun f => (e.id, shown e f (groups e.id))

/-- Among rows without a common id, each takes the groups of its id. -/
theorem showRows_eq (c : Catalog) :
    (rows : List EntityRow) → (groups : Index Nat (List CallGroup)) →
    (rows.map (·.id)).Nodup →
    c.showRows groups rows = rows.filterMap (c.entryOf fun i => (groups.get? i).getD [])
  | [], _, _ => rfl
  | e :: es, groups, h => by
    rw [List.map_cons, List.nodup_cons] at h
    rw [showRows, List.filterMap_cons, entryOf]
    cases hf : c.file? e.fileId with
    | none => exact showRows_eq c es groups h.2
    | some f =>
      refine congrArg (_ :: ·) ((showRows_eq c es (groups.erase e.id) h.2).trans ?_)
      refine List.filterMap_congr fun r hr => ?_
      have hne : r.id ≠ e.id := fun he => h.1 (he ▸ List.mem_map_of_mem hr)
      rw [entryOf, entryOf, Index.get?_erase_of_ne hne]

/-- The entity that is shown for an id : that of its row, if the file is known, with the groups of
its own calls. -/
theorem get?_project {c : Catalog} (h : (c.entities.map (·.id)).Nodup) (i : Nat) :
    c.project.get? i = (c.entities.find? (·.id == i)).bind fun e =>
      (c.file? e.fileId).map fun f =>
        shown e f (CallGroup.byKey (CallRow.ofCaller e.id c.calls)) := by
  have hgroups : (fun i => ((Grouping.ofRows c.calls).groups.get? i).getD []) =
      fun i => CallGroup.byKey (CallRow.ofCaller i c.calls) :=
    funext (Grouping.groupsOf_ofRows c.calls)
  rw [project, IdMap.get?_ofList, showRows_eq c _ _ h, hgroups, List.filter_filterMap]
  have hkeep : c.entities.filterMap (fun e => Option.filter (·.1 == i)
      (c.entryOf (fun i => CallGroup.byKey (CallRow.ofCaller i c.calls)) e)) =
      (c.entities.filter (·.id == i)).filterMap
        (c.entryOf fun i => CallGroup.byKey (CallRow.ofCaller i c.calls)) := by
    rw [List.filterMap_filter]
    refine List.filterMap_congr fun e _ => ?_
    rw [entryOf]
    cases c.file? e.fileId <;> by_cases hi : e.id = i <;> simp [hi]
  rw [hkeep, filter_eq_toList_find? i h]
  cases c.entities.find? (·.id == i) with
  | none => rfl
  | some e =>
    rw [Option.toList_some, List.filterMap_cons, List.filterMap_nil, entryOf, Option.bind_some]
    cases c.file? e.fileId <;> rfl

theorem showRows_congr {c c' : Catalog} (hfiles : c.files = c'.files) : (rows : List EntityRow) →
    {groups groups' : Index Nat (List CallGroup)} →
    (∀ u, (groups.get? u).getD [] = (groups'.get? u).getD []) →
      c.showRows groups rows = c'.showRows groups' rows
  | [], _, _, _ => rfl
  | e :: es, groups, groups', h => by
    have hfile : c.file? e.fileId = c'.file? e.fileId := by
      rw [file?.eq_def, file?.eq_def, hfiles]
    rw [showRows, showRows, hfile]
    cases c'.file? e.fileId with
    | none => exact showRows_congr hfiles es h
    | some f =>
      have hrest : ∀ u, ((groups.erase e.id).get? u).getD [] =
          ((groups'.erase e.id).get? u).getD [] := by
        intro u
        by_cases hu : u = e.id
        · simp [hu]
        · rw [Index.get?_erase_of_ne hu, Index.get?_erase_of_ne hu, h u]
      simp only [h e.id, showRows_congr hfiles es hrest]

/-- What is shown depends on the calls of each caller only, not on how they are mixed with those
of others. -/
theorem project_congr {c c' : Catalog} (hfiles : c.files = c'.files)
    (hentities : c.entities = c'.entities)
    (hcalls : ∀ u, CallRow.ofCaller u c.calls = CallRow.ofCaller u c'.calls) :
    c.project = c'.project := by
  have hgroups (u : Nat) : (Grouping.ofRows c.calls).groupsOf u =
      (Grouping.ofRows c'.calls).groupsOf u := by
    rw [Grouping.groupsOf_ofRows, Grouping.groupsOf_ofRows, hcalls]
  rw [project, project, hentities, showRows_congr hfiles c'.entities hgroups]

end Catalog

namespace Report.GraphDocument

/-! ## The document -/

/-- The call sites of an id are its groups, numbered in order. -/
theorem callSites_of_caller (p : Projection) (i : Nat) :
    (ofProjection p).callSites.filter (·.caller == i) = (p.get? i).elim [] (sites i) := by
  have hsites : ∀ x : Nat × Entity, (sites x.1 x.2).filter (·.caller == i) =
      if x.1 = i then sites x.1 x.2 else [] := by
    rintro ⟨j, e⟩
    by_cases h : j = i
    · simp [sites, h, List.filter_map, Function.comp_def]
    · simp [sites, h, List.filter_map, Function.comp_def]
  rw [ofProjection, filter_flatMap_id hsites p.nodup_ids, IdMap.get?]
  cases hfind : p.toList.find? (·.1 == i) with
  | none => rfl
  | some x =>
    have hx : x.1 = i := by simpa using List.find?_some hfind
    simp [hx]

end Report.GraphDocument

end CallAtlas
