import Mathlib.Data.List.Nodup
import CallAtlas.Proofs.TableScan

/-!
# Catalogs in use

`Catalog.WellFormed` : the rows of each table are numbered from one, no two files share an import
path, and no two entities share name and container. It holds for the catalog without rows and every
way to add a row keeps it, so it holds after every run of `CatalogOp`s. On a well-formed catalog the
lookups are plain searches of the tables, and a row is added exactly for what no row stands for yet
(`Catalog.Searches`).
-/

namespace CallAtlas

/-! ## Rows by key, and numbered rows -/

section Keyed

variable {ρ κ : Type} [BEq κ] [LawfulBEq κ] {key : ρ → κ}

/-- Among rows without a common key, the rows with a key are the one that a search finds. -/
theorem filter_eq_toList_find? (k : κ) : {rows : List ρ} → (rows.map key).Nodup →
    rows.filter (key · == k) = (rows.find? (key · == k)).toList
  | [], _ => rfl
  | r :: rows, h => by
    rw [List.map_cons, List.nodup_cons] at h
    by_cases hr : key r = k
    · have hrest : rows.filter (key · == k) = [] := by
        refine List.filter_eq_nil_iff.mpr fun x hx hxk => h.1 ?_
        rw [hr, ← beq_iff_eq.mp hxk]
        exact List.mem_map_of_mem hx
      simp [hr, hrest]
    · simp [hr, filter_eq_toList_find? k h.2]

/-- A row is found by its key. -/
theorem find?_key_of_mem {rows : List ρ} (h : (rows.map key).Nodup) {r : ρ} (hr : r ∈ rows) :
    rows.find? (key · == key r) = some r := by
  have hmem : r ∈ rows.filter (key · == key r) := List.mem_filter.mpr ⟨hr, by simp⟩
  rw [filter_eq_toList_find? _ h] at hmem
  simpa using hmem

/-- Searching for a key does not depend on the order of rows without a common key. -/
theorem find?_key_perm {rows rows' : List ρ} (h : (rows.map key).Nodup) (hperm : rows.Perm rows')
    (k : κ) :
    rows.find? (key · == k) = rows'.find? (key · == k) := by
  have hmatches := hperm.filter (key · == k)
  rw [filter_eq_toList_find? k h,
    filter_eq_toList_find? k ((hperm.map key).nodup_iff.mp h)] at hmatches
  cases hfind : rows.find? (key · == k) with
  | none =>
    rw [hfind, Option.toList_none, List.nil_perm] at hmatches
    exact (Option.toList_eq_nil_iff.mp hmatches).symm
  | some r =>
    rw [hfind, Option.toList_some, List.singleton_perm] at hmatches
    exact (Option.toList_eq_singleton_iff.mp hmatches.symm).symm

end Keyed

section Numbered

variable {ρ : Type} {id : ρ → Nat}

/-- Of what rows without a common id contribute, a test that singles out one id keeps what its row
contributes. -/
theorem filter_flatMap_id {τ : Type} {f : ρ → List τ} {p : τ → Bool} {i : Nat}
    (hp : ∀ r, (f r).filter p = if id r = i then f r else []) :
    {rows : List ρ} → (rows.map id).Nodup →
      (rows.flatMap f).filter p = (rows.find? (id · == i)).elim [] f
  | [], _ => rfl
  | r :: rows, h => by
    rw [List.map_cons, List.nodup_cons] at h
    rw [List.flatMap_cons, List.filter_append, hp r]
    by_cases hr : id r = i
    · have hrest : (rows.flatMap f).filter p = [] := by
        rw [List.filter_flatMap, List.flatMap_eq_nil_iff]
        intro x hx
        have hne : id x ≠ i := fun hxi => h.1 (by
          rw [hr, ← hxi]
          exact List.mem_map_of_mem hx)
        rw [hp x, if_neg hne]
      simp [hr, hrest]
    · simp [hr, filter_flatMap_id hp h.2]

/-- The rows are numbered from one. -/
def Numbered (id : ρ → Nat) (rows : List ρ) : Prop :=
  rows.map id = List.range' 1 rows.length

theorem Numbered.nodup {rows : List ρ} (h : Numbered id rows) : (rows.map id).Nodup := by
  rw [h]
  exact List.nodup_range'

theorem Numbered.ascending {rows : List ρ} (h : Numbered id rows) :
    rows.Pairwise (id · < id ·) := by
  rw [← List.pairwise_map, h]
  exact List.pairwise_lt_range'

theorem Numbered.concat {rows : List ρ} (h : Numbered id rows) {r : ρ}
    (hr : id r = rows.length + 1) :
    Numbered id (rows ++ [r]) := by
  rw [Numbered, List.map_append, h, List.length_append, List.length_singleton, List.range'_concat]
  simp [hr, Nat.add_comm]

theorem Numbered.le_length {rows : List ρ} (h : Numbered id rows) {r : ρ} (hr : r ∈ rows) :
    1 ≤ id r ∧ id r ≤ rows.length := by
  have hmem : id r ∈ rows.map id := List.mem_map_of_mem hr
  rw [h, List.mem_range'_1] at hmem
  omega

theorem Numbered.getElem {rows : List ρ} (h : Numbered id rows) {i : Nat} (hi : i < rows.length) :
    id rows[i] = i + 1 := by
  have hmap : (rows.map id)[i]? = (List.range' 1 rows.length)[i]? := by rw [h]
  rw [List.getElem?_map, List.getElem?_eq_getElem hi, List.getElem?_range' hi] at hmap
  have := Option.some.inj hmap
  omega

end Numbered

namespace Catalog

/-! ## The invariant -/

/-- Rows are numbered from one, import paths are distinct, and so are names with
their containers. -/
structure WellFormed (c : Catalog) : Prop where
  files : Numbered (·.id) c.files
  entities : Numbered (·.id) c.entities
  calls : Numbered (·.id) c.calls
  paths : (c.files.map (·.importPath)).Nodup
  keys : (c.entities.map fun e => (e.name, e.importPath)).Nodup

theorem wellFormed_empty : WellFormed empty :=
  ⟨rfl, rfl, rfl, .nil, .nil⟩

/-! ## What adding does -/

variable {c : Catalog}

/-- A file is registered by its row if there is one, and by a new row if there is none. -/
theorem addFile_cases (c : Catalog) (s : Source) :
    (∃ f ∈ c.files, f.importPath = s.importPath ∧ c.addFile s = (c, f.id)) ∨
    ((∀ f ∈ c.files, f.importPath ≠ s.importPath) ∧
      c.addFile s = (c.pushFile { s with id := c.files.length + 1 }, c.files.length + 1)) := by
  cases h : c.fileId? s.importPath with
  | none => exact .inr ⟨fileId?_eq_none_iff.mp h, by simp [addFile, h]⟩
  | some id =>
    rw [fileId?_eq] at h
    obtain ⟨f, hf, rfl⟩ := Option.map_eq_some_iff.mp h
    obtain ⟨hmem, hpath⟩ := List.mem_filter.mp (List.mem_of_getLast? hf)
    refine .inl ⟨f, hmem, beq_iff_eq.mp hpath, ?_⟩
    simp [addFile, fileId?_eq, hf]

/-- An entity is registered by its row if there is one, and by a new row if there is none. -/
theorem addEntity_cases (c : Catalog) (d : EntityDraft) :
    (∃ e ∈ c.entities, (e.name = d.name ∧ e.importPath = d.importPath) ∧
      c.addEntity d = (c, .existing e.id)) ∨
    ((∀ e ∈ c.entities, ¬(e.name = d.name ∧ e.importPath = d.importPath)) ∧
      c.addEntity d = (c.pushEntity { d with id := c.entities.length + 1 },
        .created (c.entities.length + 1))) := by
  cases h : c.entityId? d.name d.importPath with
  | none => exact .inr ⟨entityId?_eq_none_iff.mp h, by simp [addEntity, h]⟩
  | some id =>
    rw [entityId?_eq] at h
    obtain ⟨e, he, rfl⟩ := Option.map_eq_some_iff.mp h
    obtain ⟨hmem, hkey⟩ := List.mem_filter.mp (List.mem_of_getLast? he)
    refine .inl ⟨e, hmem, by simpa using hkey, ?_⟩
    simp [addEntity, entityId?_eq, he]

@[simp]
theorem files_pushFile (f : FileRow) : (c.pushFile f).files = c.files ++ [f] := rfl

@[simp]
theorem entities_pushFile (f : FileRow) : (c.pushFile f).entities = c.entities := rfl

@[simp]
theorem calls_pushFile (f : FileRow) : (c.pushFile f).calls = c.calls := rfl

@[simp]
theorem files_pushEntity (e : EntityRow) : (c.pushEntity e).files = c.files := rfl

@[simp]
theorem entities_pushEntity (e : EntityRow) : (c.pushEntity e).entities = c.entities ++ [e] := rfl

@[simp]
theorem calls_pushEntity (e : EntityRow) : (c.pushEntity e).calls = c.calls := rfl

@[simp]
theorem entities_addFile (s : Source) : (c.addFile s).1.entities = c.entities := by
  rcases addFile_cases c s with ⟨f, -, -, he⟩ | ⟨-, he⟩
  · rw [he]
  · rw [he, entities_pushFile]

namespace WellFormed

variable (h : c.WellFormed)
include h

theorem addFile (s : Source) : (c.addFile s).1.WellFormed := by
  rcases addFile_cases c s with ⟨f, -, -, he⟩ | ⟨hnew, he⟩
  · rwa [he]
  · rw [he]
    refine ⟨h.files.concat rfl, h.entities, h.calls, ?_, h.keys⟩
    rw [files_pushFile, List.map_append, List.nodup_append]
    refine ⟨h.paths, List.nodup_singleton _, fun p hp q hq => ?_⟩
    obtain ⟨f, hf, rfl⟩ := List.mem_map.mp hp
    rw [List.map_singleton, List.mem_singleton] at hq
    rw [hq]
    exact hnew f hf

theorem addEntity (d : EntityDraft) : (c.addEntity d).1.WellFormed := by
  rcases addEntity_cases c d with ⟨e, -, -, he⟩ | ⟨hnew, he⟩
  · rwa [he]
  · rw [he]
    refine ⟨h.files, h.entities.concat rfl, h.calls, h.paths, ?_⟩
    rw [entities_pushEntity, List.map_append, List.nodup_append]
    refine ⟨h.keys, List.nodup_singleton _, fun p hp q hq => ?_⟩
    obtain ⟨e, he, rfl⟩ := List.mem_map.mp hp
    rw [List.map_singleton, List.mem_singleton] at hq
    rw [hq]
    exact fun hkey => hnew e he (by simpa using hkey)

theorem addCall (caller callee : Nat) (key : String) : (c.addCall caller callee key).1.WellFormed :=
  ⟨h.files, h.entities, h.calls.concat rfl, h.paths, h.keys⟩

/-! ## Looking up -/

/-- The file with an id is the row that a search finds. -/
theorem file?_eq_find? (i : Nat) : c.file? i = c.files.find? (·.id == i) := by
  rcases i with - | i
  · refine (List.find?_eq_none.mpr fun f hf hi => ?_).symm
    have := h.files.le_length hf
    simp only [beq_iff_eq] at hi
    omega
  · rw [file?]
    by_cases hi : i < c.files.length
    · have hid := h.files.getElem hi
      have hfind := find?_key_of_mem h.files.nodup (List.getElem_mem hi)
      rw [hid] at hfind
      simp [hi, hid, hfind]
    · rw [List.getElem?_eq_none (by omega), Option.filter_none]
      refine (List.find?_eq_none.mpr fun f hf hid => ?_).symm
      have := h.files.le_length hf
      simp only [beq_iff_eq] at hid
      omega

/-- The entity with an id is the row that a search finds. -/
theorem entity?_eq_find? (i : Nat) : c.entity? i = c.entities.find? (·.id == i) := by
  rw [entity?_eq, filter_eq_toList_find? i h.entities.nodup]
  cases c.entities.find? (·.id == i) <;> rfl

theorem file?_id {f : FileRow} (hf : f ∈ c.files) : c.file? f.id = some f := by
  rw [h.file?_eq_find?, find?_key_of_mem h.files.nodup hf]

theorem entity?_id {e : EntityRow} (he : e ∈ c.entities) : c.entity? e.id = some e := by
  rw [h.entity?_eq_find?, find?_key_of_mem h.entities.nodup he]

theorem inFile_id {e : EntityRow} (he : e ∈ c.entities) (f : Nat) :
    c.inFile f e.id = (e.fileId == f) := by
  simp [inFile, h.entity?_id he]

/-- The ids with a name that belong to a file are those of the rows with the name and the file. -/
theorem filter_inFile (n : String) (f : Nat) : (c.idsNamed n).filter (c.inFile f) =
    (c.entities.filter fun e => e.name == n && e.fileId == f).map (·.id) := by
  rw [idsNamed_eq, List.filter_map, List.filter_filter]
  congr 1
  refine List.filter_congr fun e he => ?_
  simp [h.inFile_id he, Bool.and_comm]

/-- A file that has a row keeps it. -/
theorem addFile_of_mem {s : Source} {f : FileRow} (hf : f ∈ c.files)
    (hp : f.importPath = s.importPath) : c.addFile s = (c, f.id) := by
  rcases addFile_cases c s with ⟨g, hg, hgp, he⟩ | ⟨hnew, -⟩
  · rw [he, List.inj_on_of_nodup_map h.paths hg hf (hgp.trans hp.symm)]
  · exact absurd hp (hnew f hf)

/-- An entity that has a row keeps it. -/
theorem addEntity_of_mem {d : EntityDraft} {e : EntityRow} (hmem : e ∈ c.entities)
    (hn : e.name = d.name) (hp : e.importPath = d.importPath) :
    c.addEntity d = (c, .existing e.id) := by
  rcases addEntity_cases c d with ⟨g, hg, ⟨hgn, hgp⟩, he⟩ | ⟨hnew, -⟩
  · have hge : g = e := List.inj_on_of_nodup_map h.keys hg hmem (by simp [hgn, hgp, hn, hp])
    rw [he, hge]
  · exact absurd ⟨hn, hp⟩ (hnew e hmem)

end WellFormed

/-! ## Indexed operations as searches -/

/-- Every lookup gives what a search of the tables gives. Adding keeps the row that a search finds,
and adds one row with a fresh id if it finds none. -/
structure Searches (c : Catalog) : Prop where
  file : ∀ i, c.file? i = c.files.find? (·.id == i)
  entity : ∀ i, c.entity? i = c.entities.find? (·.id == i)
  hasName : ∀ n, c.hasName n ↔ ∃ e ∈ c.entities, e.name = n
  find : ∀ n, c.find n none = (c.entities.filter (·.name == n)).map (·.id)
  findIn : ∀ n f, c.find n (some f) =
    (c.entities.filter fun e => e.name == n && e.fileId == f).map (·.id)
  addFile : ∀ s, c.addFile s =
    match c.files.find? (·.importPath == s.importPath) with
    | some f => (c, f.id)
    | none => (.ofRows (c.files ++ [{ s with id := c.files.length + 1 }]) c.entities c.calls,
        c.files.length + 1)
  addFile_eq_iff : ∀ s, (c.addFile s).1 = c ↔ ∃ f ∈ c.files, f.importPath = s.importPath
  freshFile : ∀ f ∈ c.files, f.id ≠ c.files.length + 1
  addEntity : ∀ d, c.addEntity d =
    match c.entities.find? fun e => e.name == d.name && e.importPath == d.importPath with
    | some e => (c, .existing e.id)
    | none => (.ofRows c.files (c.entities ++ [{ d with id := c.entities.length + 1 }]) c.calls,
        .created (c.entities.length + 1))
  addEntity_eq_iff : ∀ d, (c.addEntity d).1 = c ↔
    ∃ e ∈ c.entities, e.name = d.name ∧ e.importPath = d.importPath
  freshEntity : ∀ e ∈ c.entities, e.id ≠ c.entities.length + 1

theorem pushFile_ne (f : FileRow) : c.pushFile f ≠ c := fun h => by
  have := congrArg (·.files.length) h
  simp at this

theorem pushEntity_ne (e : EntityRow) : c.pushEntity e ≠ c := fun h => by
  have := congrArg (·.entities.length) h
  simp at this

theorem WellFormed.addFile_eq_search (h : c.WellFormed) (s : Source) : c.addFile s =
    match c.files.find? (·.importPath == s.importPath) with
    | some f => (c, f.id)
    | none => (.ofRows (c.files ++ [{ s with id := c.files.length + 1 }]) c.entities c.calls,
        c.files.length + 1) := by
  cases hf : c.files.find? (·.importPath == s.importPath) with
  | some f =>
    exact h.addFile_of_mem (List.mem_of_find?_eq_some hf) (by simpa using List.find?_some hf)
  | none =>
    rcases addFile_cases c s with ⟨f, hmem, hp, -⟩ | ⟨-, he⟩
    · exact absurd (by simpa using hp) (List.find?_eq_none.mp hf f hmem)
    · rw [he]
      exact congrArg (·, _) (eq_of_tables rfl rfl rfl)

theorem WellFormed.addEntity_eq_search (h : c.WellFormed) (d : EntityDraft) : c.addEntity d =
    match c.entities.find? fun e => e.name == d.name && e.importPath == d.importPath with
    | some e => (c, .existing e.id)
    | none => (.ofRows c.files (c.entities ++ [{ d with id := c.entities.length + 1 }]) c.calls,
        .created (c.entities.length + 1)) := by
  cases hf : c.entities.find? fun e => e.name == d.name && e.importPath == d.importPath with
  | some e =>
    have hkey : e.name = d.name ∧ e.importPath = d.importPath := by simpa using List.find?_some hf
    exact h.addEntity_of_mem (List.mem_of_find?_eq_some hf) hkey.1 hkey.2
  | none =>
    rcases addEntity_cases c d with ⟨e, hmem, hkey, -⟩ | ⟨-, he⟩
    · exact absurd (by simpa using hkey) (List.find?_eq_none.mp hf e hmem)
    · rw [he]
      exact congrArg (·, _) (eq_of_tables rfl rfl rfl)

theorem WellFormed.searches (h : c.WellFormed) : c.Searches where
  file := h.file?_eq_find?
  entity := h.entity?_eq_find?
  hasName := c.hasName_iff
  find := c.idsNamed_eq
  findIn := h.filter_inFile
  addFile := h.addFile_eq_search
  addFile_eq_iff s := by
    rcases addFile_cases c s with ⟨f, hf, hp, he⟩ | ⟨hnew, he⟩
    · simp only [he, true_iff]
      exact ⟨f, hf, hp⟩
    · simp only [he, pushFile_ne, false_iff, not_exists, not_and]
      exact hnew
  freshFile f hf := by
    have := h.files.le_length hf
    omega
  addEntity := h.addEntity_eq_search
  addEntity_eq_iff d := by
    rcases addEntity_cases c d with ⟨e, hmem, hkey, he⟩ | ⟨hnew, he⟩
    · simp only [he, true_iff]
      exact ⟨e, hmem, hkey⟩
    · simp only [he, pushEntity_ne, false_iff, not_exists, not_and]
      exact fun e hmem hn hp => hnew e hmem ⟨hn, hp⟩
  freshEntity e he := by
    have := h.entities.le_length he
    omega

end Catalog

/-! ## Runs -/

/-- A use of a catalog. -/
inductive CatalogOp where
  | addFile (s : Source)
  | addEntity (d : EntityDraft)
  | addCall (caller callee : Nat) (key : String)
  | clear
  /-- Build the catalog anew from its rows. -/
  | rebuild

/-- The catalog after a use. -/
def CatalogOp.apply (c : Catalog) : CatalogOp → Catalog
  | .addFile s => (c.addFile s).1
  | .addEntity d => (c.addEntity d).1
  | .addCall caller callee key => (c.addCall caller callee key).1
  | .clear => .empty
  | .rebuild => .ofRows c.files c.entities c.calls

theorem CatalogOp.wellFormed_apply {c : Catalog} (h : c.WellFormed) (op : CatalogOp) :
    (op.apply c).WellFormed := by
  cases op with
  | addFile s => exact h.addFile s
  | addEntity d => exact h.addEntity d
  | addCall caller callee key => exact h.addCall caller callee key
  | clear => exact Catalog.wellFormed_empty
  | rebuild => exact (Catalog.ofRows_tables c).symm ▸ h

namespace Catalog

/-- The catalog after a run of uses, from the catalog without rows on. -/
def after (ops : List CatalogOp) : Catalog :=
  ops.foldl CatalogOp.apply empty

theorem wellFormed_after (ops : List CatalogOp) : (after ops).WellFormed := by
  induction ops using List.reverseRecOn with
  | nil => exact wellFormed_empty
  | append_singleton ops op ih =>
    rw [after, List.foldl_append]
    exact op.wellFormed_apply ih

/-- After every run of uses, the tables are well formed, the indexed operations are searches of the
tables, and building the catalog anew from its rows gives the same catalog, so nothing that follows
can tell them apart. -/
theorem indexes_in_step_after (ops : List CatalogOp) :
    (after ops).WellFormed ∧ (after ops).Searches ∧
      ofRows (after ops).files (after ops).entities (after ops).calls = after ops :=
  ⟨wellFormed_after ops, (wellFormed_after ops).searches, ofRows_tables _⟩

end Catalog

end CallAtlas
