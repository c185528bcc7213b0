import CallAtlas.Proofs.DrawnClusters
import CallAtlas.Proofs.ShownEntities

/-!
# Call rows in groups

A projection regroups the call rows of a catalog, whatever they are : rows of different callers and
keys may stand in any order, and two callers may use the same key. `CallRow.Regroups` says what the
groups of a caller are, in terms of the rows : one group for each of its keys, in order of first
appearance, with the callees of this key in row order. No row is lost, and none comes from another
caller (`Catalog.project_regroups`).
-/

namespace CallAtlas

namespace CallRow

/-- The keys that a caller uses, in order of first appearance. -/
def distinctKeys (u : Nat) (rows : List CallRow) : List String :=
  ((rows.filter (·.caller == u)).map (·.key)).eraseDups

/-- The callees of the rows with a caller and a key. -/
def calleesUnder (u : Nat) (k : String) (rows : List CallRow) : CallGroup :=
  (rows.filter fun r => r.caller == u && r.key == k).map (·.callee)

/-- The callees of all rows with a caller. -/
def calleesOf (u : Nat) (rows : List CallRow) : List Nat :=
  (rows.filter (·.caller == u)).map (·.callee)

/-- The groups are the rows of a caller, put together by their keys. -/
structure Regroups (u : Nat) (rows : List CallRow) (groups : List CallGroup) : Prop where
  /-- There is a group for each key. -/
  length : groups.length = (distinctKeys u rows).length
  /-- The group of a key stands at the place of the key, and has all its callees in row order. -/
  group : ∀ (i : Nat) (k : String), (distinctKeys u rows)[i]? = some k →
    groups[i]? = some (calleesUnder u k rows)
  /-- No group is empty. -/
  filled : ∀ g ∈ groups, g ≠ []
  /-- Together they have the callees of all rows. -/
  perm : groups.flatten.Perm (calleesOf u rows)

theorem keys_ofCaller (u : Nat) (rows : List CallRow) :
    CallGroup.keys (ofCaller u rows) = distinctKeys u rows := by
  rw [CallGroup.keys, ofCaller, List.map_map, distinctKeys]
  rfl

theorem under_ofCaller (u : Nat) (rows : List CallRow) (k : String) :
    CallGroup.under (ofCaller u rows) k = calleesUnder u k rows := by
  rw [CallGroup.under, ofCaller, List.filter_map, List.map_map, List.filter_filter, calleesUnder]
  simp only [Function.comp_def, Bool.and_comm]

end CallRow

namespace CallGroup

theorem under_ne_nil {calls : List (String × Nat)} {k : String} (h : k ∈ keys calls) :
    under calls k ≠ [] := by
  obtain ⟨x, hx, rfl⟩ := List.mem_map.mp (List.mem_eraseDups.mp h)
  exact List.ne_nil_of_mem (List.mem_map.mpr ⟨x, List.mem_filter.mpr ⟨hx, by simp⟩, rfl⟩)

/-- The keys divide the calls. -/
theorem flatten_byKey_perm (calls : List (String × Nat)) :
    (byKey calls).flatten.Perm (calls.map (·.2)) := by
  have hflatten : (byKey calls).flatten =
      ((keys calls).flatMap fun k => calls.filter (·.1 == k)).map (·.2) := by
    rw [byKey, ← List.flatMap_def, List.map_flatMap]
    rfl
  rw [hflatten]
  refine (perm_flatMap_filter Prod.fst (nodup_keys calls) fun x hx => ?_).map _
  exact List.mem_eraseDups.mpr (List.mem_map_of_mem hx)

end CallGroup

theorem CallRow.regroups_byKey (u : Nat) (rows : List CallRow) :
    Regroups u rows (CallGroup.byKey (ofCaller u rows)) where
  length := by rw [CallGroup.byKey, List.length_map, keys_ofCaller]
  group i k hk := by
    rw [CallGroup.byKey, List.getElem?_map, keys_ofCaller, hk, Option.map_some, under_ofCaller]
  filled g hg := by
    obtain ⟨k, hk, rfl⟩ := List.mem_map.mp hg
    exact CallGroup.under_ne_nil hk
  perm := by
    refine (CallGroup.flatten_byKey_perm _).trans ?_
    rw [ofCaller, List.map_map]
    exact .refl _

namespace Catalog

/-- An entity shows a row and its file, with the call rows of its id in groups. -/
structure ShowsRow (e : EntityRow) (f : FileRow) (calls : List CallRow) (x : Entity) : Prop where
  name : x.name = e.name ++ e.kind.decoration
  baseName : x.baseName = e.name
  kind : x.kind = e.kind
  file : x.file = f.importPath
  importPath : x.importPath = e.importPath
  owner : x.owner = e.owner
  calls : CallRow.Regroups e.id calls x.calls

/-- A projection shows the entities of known files, with the groups of their own call rows. -/
structure ShowsGroups (c : Catalog) : Prop where
  /-- An id is shown if its row has a file. -/
  shown_iff : ∀ i, (c.project.get? i).isSome ↔
    ∃ e ∈ c.entities, e.id = i ∧ (c.file? e.fileId).isSome
  /-- What is shown under the id of a row is the row, with its file and its call rows in groups. -/
  rows : ∀ e ∈ c.entities, ∀ f, c.file? e.fileId = some f →
    ∃ x, c.project.get? e.id = some x ∧ ShowsRow e f c.calls x
  /-- The rows of other callers do not matter, whatever keys they have. -/
  others : ∀ e ∈ c.entities, ∀ calls : List CallRow,
    calls.filter (·.caller == e.id) = c.calls.filter (·.caller == e.id) →
    (ofRows c.files c.entities calls).project.get? e.id = c.project.get? e.id

theorem showsRow_shown (e : EntityRow) (f : FileRow) (calls : List CallRow) :
    ShowsRow e f calls (shown e f (CallGroup.byKey (CallRow.ofCaller e.id calls))) where
  name := rfl
  baseName := rfl
  kind := rfl
  file := rfl
  importPath := rfl
  owner := rfl
  calls := CallRow.regroups_byKey e.id calls

theorem get?_project_of_mem {c : Catalog} (h : (c.entities.map (·.id)).Nodup) {e : EntityRow}
    (he : e ∈ c.entities) : c.project.get? e.id = (c.file? e.fileId).map fun f =>
      shown e f (CallGroup.byKey (CallRow.ofCaller e.id c.calls)) := by
  rw [get?_project h, find?_key_of_mem h he, Option.bind_some]

/-- **Projecting regroups call rows without loss.** The entities have distinct ids, and the call
rows are arbitrary. -/
theorem project_regroups {c : Catalog} (h : (c.entities.map (·.id)).Nodup) : c.ShowsGroups where
  shown_iff i := by
    constructor
    · intro hi
      rw [get?_project h, Option.isSome_iff_exists] at hi
      obtain ⟨x, hx⟩ := hi
      obtain ⟨e, he, hx⟩ := Option.bind_eq_some_iff.mp hx
      obtain ⟨f, hf, -⟩ := Option.map_eq_some_iff.mp hx
      exact ⟨e, List.mem_of_find?_eq_some he, by simpa using List.find?_some he,
        by rw [hf, Option.isSome_some]⟩
    · rintro ⟨e, he, rfl, hf⟩
      rw [get?_project_of_mem h he, Option.isSome_map]
      exact hf
  rows e he f hf := by
    refine ⟨_, ?_, showsRow_shown e f c.calls⟩
    rw [get?_project_of_mem h he, hf, Option.map_some]
  others e he calls hcalls := by
    have hsame : CallRow.ofCaller e.id calls = CallRow.ofCaller e.id c.calls := by
      rw [CallRow.ofCaller, hcalls, CallRow.ofCaller]
    have hother : (ofRows c.files c.entities calls).project.get? e.id =
        (c.file? e.fileId).map fun f => shown e f (CallGroup.byKey (CallRow.ofCaller e.id calls)) :=
      get?_project_of_mem (c := ofRows c.files c.entities calls) h he
    rw [hother, hsame, get?_project_of_mem h he]

/-- Two callers whose rows are mixed and share a key, and an entity of an unknown file. -/
def crossed : Catalog :=
  ofRows [⟨⟨"/app.rs", "app", 0⟩, 1⟩]
    [⟨⟨1, "run", .function, "app", none⟩, 4⟩, ⟨⟨1, "stop", .function, "app", none⟩, 7⟩,
      ⟨⟨2, "lost", .function, "old", none⟩, 9⟩]
    [⟨1, 4, 7, "k"⟩, ⟨2, 7, 4, "k"⟩, ⟨3, 4, 4, "j"⟩, ⟨4, 4, 9, "k"⟩, ⟨5, 9, 4, "j"⟩]

theorem project_regroups_crossed :
    (crossed.entities.map (·.id)).Nodup ∧ crossed.project.ids = [4, 7] ∧
    crossed.project.get? 4 = some ⟨"run()", "run", .function, "app", "app", none, [[7, 9], [4]]⟩ ∧
    CallRow.Regroups 4 crossed.calls [[7, 9], [4]] := by
  have hids : (crossed.entities.map (·.id)).Nodup := by decide
  have hrun : crossed.project.get? 4 =
      some ⟨"run()", "run", .function, "app", "app", none, [[7, 9], [4]]⟩ := by decide
  obtain ⟨x, hx, hrow⟩ := (project_regroups hids).rows
    ⟨⟨1, "run", .function, "app", none⟩, 4⟩ (by decide) ⟨⟨"/app.rs", "app", 0⟩, 1⟩ (by decide)
  rw [hrun] at hx
  obtain rfl := Option.some.inj hx
  exact ⟨hids, by decide, hrun, hrow.calls⟩

end Catalog

end CallAtlas
