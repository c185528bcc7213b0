import CallAtlas.Analysis
import CallAtlas.Proofs.CatalogRuns

/-!
# What registration adds

Registering the declarations of a file only adds entity rows of that file, and the discovered
symbols are the added rows with a body, in the order of the table (`Catalog.Declared`).
`Catalog.Registered` is the invariant of registering sources one after another from the catalog
without rows : the catalog is well formed and without calls, every entity belongs to a file of the
table, and all rows with a body are discovered.
-/

namespace CallAtlas

variable {σ : Type}

/-- What a discovered symbol and the row of its entity have in common. -/
def Discovered.tag (d : Discovered σ) : Nat × Nat × String :=
  (d.entityId, d.fileId, d.name)

/-- What the row of an entity and its discovered symbol have in common. -/
def EntityRow.tag (e : EntityRow) : Nat × Nat × String :=
  (e.id, e.fileId, e.name)

/-- The rows with a body. -/
def EntityRow.executables (rows : List EntityRow) : List EntityRow :=
  rows.filter (·.kind.isExecutable)

namespace Catalog

/-! ## Declarations -/

/-- `c'` is `c` with more entity rows of a file, and `found` are those of them that have a body. -/
structure Declared (fileId : Nat) (c c' : Catalog) (found : List (Discovered σ))
    (rows : List EntityRow) : Prop where
  files : c'.files = c.files
  calls : c'.calls = c.calls
  entities : c'.entities = c.entities ++ rows
  fileIds : ∀ e ∈ rows, e.fileId = fileId
  found : found.map (·.tag) = (EntityRow.executables rows).map (·.tag)
  wellFormed : c.WellFormed → c'.WellFormed

theorem Declared.refl (fileId : Nat) (c : Catalog) : Declared (σ := σ) fileId c c [] [] where
  files := rfl
  calls := rfl
  entities := (List.append_nil _).symm
  fileIds := by simp
  found := rfl
  wellFormed := id

theorem Declared.trans {fileId : Nat} {c₁ c₂ c₃ : Catalog} {found found' : List (Discovered σ)}
    {rows rows' : List EntityRow} (h : Declared fileId c₁ c₂ found rows)
    (h' : Declared fileId c₂ c₃ found' rows') :
    Declared fileId c₁ c₃ (found ++ found') (rows ++ rows') where
  files := h'.files.trans h.files
  calls := h'.calls.trans h.calls
  entities := by rw [h'.entities, h.entities, List.append_assoc]
  fileIds e he := (List.mem_append.mp he).elim (h.fileIds e) (h'.fileIds e)
  found := by
    rw [EntityRow.executables, List.filter_append, List.map_append, List.map_append,
      h.found, h'.found]
    rfl
  wellFormed hc := h'.wellFormed (h.wellFormed hc)

/-- The symbol that is discovered when an entity is registered, if there is one. -/
def foundBy (d : EntityDraft) (symbol : σ) (r : Registration) : List (Discovered σ) :=
  if d.kind.isExecutable && r.isCreated then [⟨r.id, d.fileId, d.name, symbol⟩] else []

theorem declared_addEntity (c : Catalog) (d : EntityDraft) (symbol : σ) :
    ∃ rows, Declared d.fileId c (c.addEntity d).1 (foundBy d symbol (c.addEntity d).2) rows := by
  have hwf : c.WellFormed → (c.addEntity d).1.WellFormed := fun h => h.addEntity d
  rcases addEntity_cases c d with ⟨e, -, -, he⟩ | ⟨-, he⟩
  · refine ⟨[], ?_⟩
    have hnone : foundBy d symbol (c.addEntity d).2 = [] := by
      simp [he, foundBy, Registration.isCreated]
    rw [hnone, he]
    exact .refl d.fileId c
  · rw [he] at hwf ⊢
    refine ⟨[{ d with id := c.entities.length + 1 }], rfl, rfl, rfl, by simp, ?_, hwf⟩
    cases hk : d.kind.isExecutable
    · simp [foundBy, hk, EntityRow.executables]
    · simp [foundBy, hk, EntityRow.executables, Discovered.tag, EntityRow.tag,
        Registration.isCreated, Registration.id]

mutual

theorem declared_declareOne (fileId : Nat) : (d : Declaration σ) → (container : String) →
    (owner : Option Nat) → (c : Catalog) →
    ∃ rows, Declared fileId c (declareOne fileId container owner c d).1
      (declareOne fileId container owner c d).2 rows
  | .mk name kind symbol children, container, owner, c => by
    obtain ⟨rows, hown⟩ := declared_addEntity c (draft fileId container owner name kind) symbol
    obtain ⟨rows', hrest⟩ := declared_declareAll fileId children (container ++ "." ++ name)
      (if kind = .classType then some (c.addEntity (draft fileId container owner name kind)).2.id
        else none) (c.addEntity (draft fileId container owner name kind)).1
    refine ⟨rows ++ rows', ?_⟩
    rw [declareOne]
    exact hown.trans hrest

theorem declared_declareAll (fileId : Nat) : (ds : List (Declaration σ)) → (container : String) →
    (owner : Option Nat) → (c : Catalog) →
    ∃ rows, Declared fileId c (declareAll fileId container owner c ds).1
      (declareAll fileId container owner c ds).2 rows
  | [], _, _, c => ⟨[], .refl fileId c⟩
  | d :: ds, container, owner, c => by
    obtain ⟨rows, hfirst⟩ := declared_declareOne fileId d container owner c
    obtain ⟨rows', hrest⟩ := declared_declareAll fileId ds container owner
      (declareOne fileId container owner c d).1
    refine ⟨rows ++ rows', ?_⟩
    rw [declareAll]
    exact hfirst.trans hrest

end

theorem declared_declare (c : Catalog) (fileId : Nat) (importPath : String)
    (ds : List (Declaration σ)) :
    ∃ rows, Declared fileId c (c.declare fileId importPath ds).1
      (c.declare fileId importPath ds).2 rows :=
  declared_declareAll fileId ds importPath none c

/-! ## Sources -/

/-- The state of a registration : what is cataloged, and what is discovered so far. -/
structure Registered (c : Catalog) (found : List (Discovered σ)) : Prop where
  wellFormed : c.WellFormed
  calls : c.calls = []
  homes : ∀ e ∈ c.entities, ∃ f ∈ c.files, f.id = e.fileId
  found : found.map (·.tag) = (EntityRow.executables c.entities).map (·.tag)

theorem registered_empty : Registered (σ := σ) empty [] :=
  ⟨wellFormed_empty, rfl, by simp [empty], rfl⟩

namespace Registered

variable {c : Catalog} {found : List (Discovered σ)} (h : Registered c found)
include h

/-- No symbol is discovered twice. -/
theorem nodup_found : (found.map (·.entityId)).Nodup := by
  have hids : found.map (·.entityId) = (EntityRow.executables c.entities).map (·.id) := by
    have := congrArg (List.map (·.1)) h.found
    rwa [List.map_map, List.map_map] at this
  rw [hids]
  exact h.wellFormed.entities.nodup.sublist (List.filter_sublist.map _)

theorem addFile (s : Source) : Registered (c.addFile s).1 found := by
  have hwf := h.wellFormed.addFile s
  rcases addFile_cases c s with ⟨f, -, -, he⟩ | ⟨-, he⟩
  · rwa [he]
  · rw [he] at hwf ⊢
    refine ⟨hwf, h.calls, fun e hmem => ?_, h.found⟩
    obtain ⟨f, hf, hid⟩ := h.homes e hmem
    exact ⟨f, List.mem_append_left _ hf, hid⟩

theorem declared {c' : Catalog} {found' : List (Discovered σ)} {f : FileRow} {rows : List EntityRow}
    (hf : f ∈ c.files) (hd : Declared f.id c c' found' rows) : Registered c' (found ++ found') where
  wellFormed := hd.wellFormed h.wellFormed
  calls := hd.calls.trans h.calls
  homes e he := by
    rw [hd.files]
    rw [hd.entities] at he
    rcases List.mem_append.mp he with he | he
    · exact h.homes e he
    · exact ⟨f, hf, (hd.fileIds e he).symm⟩
  found := by
    rw [hd.entities, EntityRow.executables, List.filter_append, List.map_append,
      List.map_append, h.found, hd.found]
    rfl

theorem addSource (i : SourceReader σ) (s : Source) :
    Registered (c.addSource i s).1 (found ++ (c.addSource i s).2.toOption.getD []) := by
  have hfile := h.addFile s
  simp only [Catalog.addSource]
  cases hf : (c.addFile s).1.file? (c.addFile s).2 with
  | none => simpa [Except.toOption] using hfile
  | some f =>
    have hid : f ∈ (c.addFile s).1.files ∧ f.id = (c.addFile s).2 := by
      rw [hfile.wellFormed.file?_eq_find?] at hf
      exact ⟨List.mem_of_find?_eq_some hf, by simpa using List.find?_some hf⟩
    simp only
    split
    · simpa [Except.toOption] using hfile
    · cases i.declarations f with
      | error reason => simpa [Except.toOption] using hfile
      | ok ds =>
        obtain ⟨rows, hd⟩ := declared_declare (c.addFile s).1 (c.addFile s).2 f.importPath ds
        rw [← hid.2] at hd ⊢
        exact hfile.declared hid.1 hd

theorem addSources (i : SourceReader σ) (sources : List Source) :
    Registered (c.addSources i sources).1 (found ++ (c.addSources i sources).2.1) := by
  induction sources generalizing c found with
  | nil => simpa [Catalog.addSources] using h
  | cons s ss ih =>
    have hs := h.addSource i s
    rw [Catalog.addSources]
    rcases hc : c.addSource i s with ⟨c', e | new⟩
    all_goals rw [hc] at hs
    · simpa [Except.toOption] using ih hs
    · simpa [Except.toOption] using ih hs

end Registered

/-- The catalog and the discovered symbols after registering sources from the start. -/
theorem registered_addSources (i : SourceReader σ) (sources : List Source) :
    Registered (empty.addSources i sources).1 (empty.addSources i sources).2.1 :=
  registered_empty.addSources i sources

end Catalog

end CallAtlas
