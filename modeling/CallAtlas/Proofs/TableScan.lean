import Mathlib.Data.List.Basic
import Mathlib.Data.List.Induction
import CallAtlas.Catalog.Basic

/-!
# Looking up is scanning

The indexes of a catalog are those of its tables, so what is found through an index is what a scan
of the table finds. Where several rows answer, the last one counts : this holds for every catalog,
of whatever rows. A catalog is given by its tables alone (`Catalog.eq_of_tables`).
-/

namespace CallAtlas

/-! ## The indexes of a table -/

theorem FileRow.get?_index (p : String) (rows : List FileRow) :
    (index rows).get? p = (rows.filter (·.importPath == p)).getLast?.map (·.id) := by
  induction rows using List.reverseRecOn with
  | nil => rfl
  | append_singleton rows f ih =>
    rw [index_concat, Index.get?_insert, List.filter_append]
    by_cases h : p = f.importPath
    · simp [h]
    · simp [h, Ne.symm h, ih]

namespace EntityIndex

theorem get?_byKey (n p : String) (rows : List EntityRow) :
    (ofRows rows).byKey.get? (n, p) =
      (rows.filter fun e => e.name == n && e.importPath == p).getLast?.map (·.id) := by
  induction rows using List.reverseRecOn with
  | nil => rfl
  | append_singleton rows e ih =>
    rw [ofRows_concat, enter, Index.get?_insert, List.filter_append]
    by_cases h : e.name = n ∧ e.importPath = p
    · simp [h]
    · have hk : ¬((n, p) = (e.name, e.importPath)) := fun he => h (by simpa [eq_comm] using he)
      have hf : (e.name == n && e.importPath == p) = false := by simpa using h
      simp [hk, hf, ih]

theorem getD_byName (n : String) (rows : List EntityRow) :
    ((ofRows rows).byName.get? n).getD [] = (rows.filter (·.name == n)).map (·.id) := by
  induction rows using List.reverseRecOn with
  | nil => rfl
  | append_singleton rows e ih =>
    rw [ofRows_concat, enter, Index.get?_insert, List.filter_append]
    by_cases h : n = e.name
    · subst h
      simp [ih]
    · simp [h, Ne.symm h, ih]

theorem isSome_byName (n : String) (rows : List EntityRow) :
    ((ofRows rows).byName.get? n).isSome ↔ ∃ e ∈ rows, e.name = n := by
  induction rows using List.reverseRecOn with
  | nil => simp [ofRows, enterFrom]
  | append_singleton rows e ih =>
    rw [ofRows_concat, enter, Index.get?_insert]
    by_cases h : n = e.name
    · simp [h]
    · simp [h, Ne.symm h, ih, or_and_right, exists_or]

theorem lt_of_get?_places {id place : Nat} (rows : List EntityRow)
    (h : (ofRows rows).places.get? id = some place) : place < rows.length := by
  induction rows using List.reverseRecOn with
  | nil => simp [ofRows, enterFrom] at h
  | append_singleton rows e ih =>
    rw [ofRows_concat, enter, Index.get?_insert] at h
    rw [List.length_append, List.length_singleton]
    split at h
    · obtain rfl := Option.some.inj h
      omega
    · have := ih h
      omega

theorem bind_places (id : Nat) (rows : List EntityRow) :
    ((ofRows rows).places.get? id).bind (rows[·]?) = (rows.filter (·.id == id)).getLast? := by
  induction rows using List.reverseRecOn with
  | nil => rfl
  | append_singleton rows e ih =>
    rw [ofRows_concat, enter, Index.get?_insert, List.filter_append]
    by_cases h : id = e.id
    · simp [h]
    · have hplace : ((ofRows rows).places.get? id).bind ((rows ++ [e])[·]?) =
          ((ofRows rows).places.get? id).bind (rows[·]?) := by
        cases hp : (ofRows rows).places.get? id with
        | none => rfl
        | some place =>
          exact List.getElem?_append_left (lt_of_get?_places rows hp)
      simp [h, Ne.symm h, hplace, ih]

end EntityIndex

/-! ## The lookups of a catalog -/

namespace Catalog

/-- Catalogs with the same tables are equal. -/
theorem eq_of_tables {c c' : Catalog} (hf : c.files = c'.files) (he : c.entities = c'.entities)
    (hc : c.calls = c'.calls) : c = c' := by
  obtain ⟨files, entities, calls, _, _, rfl, rfl⟩ := c
  obtain ⟨files', entities', calls', _, _, rfl, rfl⟩ := c'
  obtain rfl : files = files' := hf
  obtain rfl : entities = entities' := he
  obtain rfl : calls = calls' := hc
  rfl

/-- Building a catalog anew from its rows gives it back. -/
@[simp]
theorem ofRows_tables (c : Catalog) : ofRows c.files c.entities c.calls = c :=
  eq_of_tables rfl rfl rfl

variable (c : Catalog)

theorem fileId?_eq (p : String) :
    c.fileId? p = (c.files.filter (·.importPath == p)).getLast?.map (·.id) := by
  rw [fileId?, c.filesByPath_eq, FileRow.get?_index]

theorem entityId?_eq (n p : String) : c.entityId? n p =
    (c.entities.filter fun e => e.name == n && e.importPath == p).getLast?.map (·.id) := by
  rw [entityId?, c.entityIndex_eq, EntityIndex.get?_byKey]

theorem entity?_eq (id : Nat) : c.entity? id = (c.entities.filter (·.id == id)).getLast? := by
  rw [entity?, c.entityIndex_eq, EntityIndex.bind_places]

theorem idsNamed_eq (n : String) : c.idsNamed n = (c.entities.filter (·.name == n)).map (·.id) := by
  rw [idsNamed, c.entityIndex_eq, EntityIndex.getD_byName]

theorem hasName_iff (n : String) : c.hasName n ↔ ∃ e ∈ c.entities, e.name = n := by
  rw [hasName, c.entityIndex_eq, EntityIndex.isSome_byName]

variable {c}

theorem fileId?_eq_none_iff {p : String} :
    c.fileId? p = none ↔ ∀ f ∈ c.files, f.importPath ≠ p := by
  simp [fileId?_eq]

theorem entityId?_eq_none_iff {n p : String} :
    c.entityId? n p = none ↔ ∀ e ∈ c.entities, ¬(e.name = n ∧ e.importPath = p) := by
  simp [entityId?_eq]

end Catalog

end CallAtlas
