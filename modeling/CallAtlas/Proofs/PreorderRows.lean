import CallAtlas.Proofs.Containment
import CallAtlas.Proofs.DrawnClusters

/-!
# The rows of a forest

Registering a forest visits each of its declarations once, before those inside it
(`Declaration.visitsAll`). A visit knows the names and kinds around it; its container is the import
path followed by these names. The visits whose key is neither in the catalog nor the key of an
earlier visit are new (`Catalog.newVisits`), and what registering adds is a row for each of them, in
order (`Catalog.AddsPreorder`). A declaration that is not new gets no row, but what is inside it is
visited all the same, and has the row that is there for its owner.
-/

namespace CallAtlas

/-! ## Visits -/

/-- A declaration with the names and kinds of those around it, outermost first. -/
structure Visit (σ : Type) where
  above : List (String × Kind)
  name : String
  kind : Kind
  symbol : σ

/-- A dotted path that goes on with names. -/
def dotted (path : String) (above : List (String × Kind)) : String :=
  above.foldl (fun p a => p ++ "." ++ a.1) path

/-- The key of the last of the names on a path, if it is that of a class. -/
def classAround (path : String) (above : List (String × Kind)) : Option (String × String) :=
  above.getLast?.bind fun a =>
    if a.2 = .classType then some (a.1, dotted path above.dropLast) else none

namespace Visit

variable {σ : Type} (path : String) (v : Visit σ)

/-- The path of the container. -/
def container : String :=
  dotted path v.above

/-- The key that is declared. -/
def key : String × String :=
  (v.name, v.container path)

/-- The key of the owner : that of the declaration directly around, if it is a class. A module
has none. -/
def ownerKey : Option (String × String) :=
  if v.kind = .module then none else classAround path v.above

/-- A visit as an occurrence in a file. -/
def occurrence (fileId : Nat) : Occurrence :=
  ⟨fileId, v.name, v.kind, v.container path, classAround path v.above⟩

end Visit

theorem dotted_concat (path : String) (above : List (String × Kind)) (a : String × Kind) :
    dotted path (above ++ [a]) = dotted path above ++ "." ++ a.1 := by
  simp [dotted]

theorem classAround_concat (path : String) (above : List (String × Kind)) (a : String × Kind) :
    classAround path (above ++ [a]) =
      if a.2 = .classType then some (a.1, dotted path above) else none := by
  simp [classAround]

namespace Declaration

variable {σ : Type}

mutual

/-- The visits of a declaration and of all inside it. -/
def visits (above : List (String × Kind)) : Declaration σ → List (Visit σ)
  | .mk name kind symbol children =>
    ⟨above, name, kind, symbol⟩ :: visitsAll (above ++ [(name, kind)]) children

/-- The visits of a forest. -/
def visitsAll (above : List (String × Kind)) : List (Declaration σ) → List (Visit σ)
  | [] => []
  | d :: ds => d.visits above ++ visitsAll above ds

end

variable (fileId : Nat) (path : String)

mutual

theorem map_occurrence_visits : (d : Declaration σ) → (above : List (String × Kind)) →
    (d.visits above).map (·.occurrence path fileId) =
      d.occurrences fileId (dotted path above) (classAround path above)
  | .mk name kind symbol children, above => by
    rw [visits, occurrences, List.map_cons, map_occurrence_visitsAll children, dotted_concat,
      classAround_concat]
    rfl

theorem map_occurrence_visitsAll : (ds : List (Declaration σ)) → (above : List (String × Kind)) →
    (visitsAll above ds).map (·.occurrence path fileId) =
      occurrencesAll fileId (dotted path above) (classAround path above) ds
  | [], _ => by rw [visitsAll, occurrencesAll, List.map_nil]
  | d :: ds, above => by
    rw [visitsAll, occurrencesAll, List.map_append, map_occurrence_visits d,
      map_occurrence_visitsAll ds]

end

end Declaration

/-! ## New visits -/

namespace Catalog

variable {σ : Type} (path : String)

/-- The visits of a list whose key is not in the catalog and not that of an earlier visit. -/
def newVisits (c : Catalog) (vs : List (Visit σ)) : List (Visit σ) :=
  (keepFirst (·.key path) vs).filter (·.key path ∉ c.entities.map (·.key))

/-- The row of a visit, with the owner that a catalog has under its key. -/
def rowOf (c : Catalog) (fileId : Nat) (v : Visit σ) (id : Nat) : EntityRow where
  fileId
  name := v.name
  kind := v.kind
  importPath := v.container path
  owner := (v.ownerKey path).bind c.idOf?
  id

/-- The rows of new visits, numbered on from those of the catalog. -/
def newRows (c c' : Catalog) (fileId : Nat) (vs : List (Visit σ)) : List EntityRow :=
  ((c.newVisits path vs).zipIdx (c.entities.length + 1)).map fun x => c'.rowOf path fileId x.1 x.2

/-- The symbols of new visits with a body. -/
def newSymbols (c : Catalog) (fileId : Nat) (vs : List (Visit σ)) : List (Discovered σ) :=
  (((c.newVisits path vs).zipIdx (c.entities.length + 1)).filter (·.1.kind.isExecutable)).map
    fun x => ⟨x.2, fileId, x.1.name, x.1.symbol⟩

/-- The catalog after visits. -/
def visitAll (c : Catalog) (fileId : Nat) (vs : List (Visit σ)) : Catalog :=
  vs.foldl (fun c v => c.enter (v.occurrence path fileId)) c

variable {path} {c : Catalog} {fileId : Nat}

theorem newVisits_concat_of_known {vs : List (Visit σ)} {v : Visit σ}
    (h : v.key path ∈ c.entities.map (·.key) ∨ v.key path ∈ vs.map (·.key path)) :
    c.newVisits path (vs ++ [v]) = c.newVisits path vs := by
  rw [newVisits, keepFirst_concat, newVisits]
  split
  · rfl
  · rename_i hnew
    have hknown := h.resolve_right fun hearlier => hnew ((mem_keys_keepFirst _).mpr hearlier)
    rw [List.filter_append, List.filter_singleton]
    simp [hknown]

theorem newVisits_concat_of_new {vs : List (Visit σ)} {v : Visit σ}
    (h : ¬(v.key path ∈ c.entities.map (·.key) ∨ v.key path ∈ vs.map (·.key path))) :
    c.newVisits path (vs ++ [v]) = c.newVisits path vs ++ [v] := by
  obtain ⟨hunknown, hfirst⟩ := not_or.mp h
  rw [newVisits, keepFirst_concat, if_neg (mt (mem_keys_keepFirst _).mp hfirst), List.filter_append,
    List.filter_singleton]
  simp [hunknown, newVisits]

/-! ## Visiting -/

theorem visitAll_concat (vs : List (Visit σ)) (v : Visit σ) :
    c.visitAll path fileId (vs ++ [v]) =
      (c.visitAll path fileId vs).enter (v.occurrence path fileId) := by
  simp [visitAll]

/-- Visits make their keys known, and no others. -/
theorem mem_keys_visitAll (vs : List (Visit σ)) (k : String × String) :
    k ∈ (c.visitAll path fileId vs).entities.map (·.key) ↔
      k ∈ c.entities.map (·.key) ∨ k ∈ vs.map (·.key path) := by
  induction vs using List.reverseRecOn with
  | nil => simp [visitAll]
  | append_singleton vs v ih =>
    rw [visitAll_concat, List.map_append, List.mem_append, ← or_assoc, ← ih]
    rcases (c.visitAll path fileId vs).enter_cases
      (v.occurrence path fileId) with ⟨hknown, he⟩ | ⟨-, he⟩
    · rw [he]
      refine ⟨.inl, fun h => h.elim id fun hk => ?_⟩
      rw [List.mem_singleton.mp hk]
      exact hknown
    · rw [he, entities_pushEntity, List.map_append, List.mem_append]
      rfl

/-- Whatever id a key has in `c`, it has in `d`. -/
def KeepsIds (c d : Catalog) : Prop :=
  ∀ k id, c.idOf? k = some id → d.idOf? k = some id

theorem KeepsIds.of_enter {d : Catalog} {x : Occurrence} (h : (c.enter x).KeepsIds d) :
    c.KeepsIds d :=
  fun k id hk => h k id (idOf?_addEntity_of_some hk _)

theorem exists_idOf?_of_mem {k : String × String} (h : k ∈ c.entities.map (·.key)) :
    ∃ id, c.idOf? k = some id := by
  cases hid : c.idOf? k with
  | some id => exact ⟨id, rfl⟩
  | none =>
    obtain ⟨r, hr, rfl⟩ := List.mem_map.mp h
    exact absurd ⟨rfl, rfl⟩ (entityId?_eq_none_iff.mp hid r hr)

/-- The row for a visit has the owner that every later catalog has under its key. -/
theorem rowFor_occurrence {d : Catalog} (hd : c.KeepsIds d) {v : Visit σ}
    (hv : ∀ k, classAround path v.above = some k → k ∈ c.entities.map (·.key)) :
    c.rowFor (v.occurrence path fileId) = d.rowOf path fileId v (c.entities.length + 1) := by
  have howner : (c.rowFor (v.occurrence path fileId)).owner = (v.ownerKey path).bind d.idOf? := by
    have hsame : (v.occurrence path fileId).ownerKey = v.ownerKey path := rfl
    rw [owner_rowFor, hsame]
    cases hkey : v.ownerKey path with
    | none => rfl
    | some k =>
      have haround := Occurrence.around_of_ownerKey (x := v.occurrence path fileId) hkey
      obtain ⟨id, hid⟩ := exists_idOf?_of_mem (hv k haround)
      rw [Option.bind_some, Option.bind_some, hid, hd k id hid]
  rw [rowOf, ← howner]
  rfl

theorem length_newRows (d : Catalog) (vs : List (Visit σ)) :
    (c.newRows path d fileId vs).length = (c.newVisits path vs).length := by
  rw [newRows, List.length_map, List.length_zipIdx]

theorem newRows_concat_of_new {d : Catalog} {vs : List (Visit σ)} {v : Visit σ}
    (h : ¬(v.key path ∈ c.entities.map (·.key) ∨ v.key path ∈ vs.map (·.key path))) :
    c.newRows path d fileId (vs ++ [v]) = c.newRows path d fileId vs ++
      [d.rowOf path fileId v (c.entities.length + (c.newVisits path vs).length + 1)] := by
  rw [newRows, newVisits_concat_of_new h, List.zipIdx_append, List.map_append, newRows]
  simp [Nat.add_right_comm]

/-- Visits add their new rows. The owners may be looked up in any later catalog. -/
theorem entities_visitAll {d : Catalog} {vs : List (Visit σ)}
    (hvs : Occurrence.Placed [] (vs.map (·.occurrence path fileId)))
    (hd : (c.visitAll path fileId vs).KeepsIds d) :
    (c.visitAll path fileId vs).entities = c.entities ++ c.newRows path d fileId vs := by
  induction vs using List.reverseRecOn with
  | nil => simp [visitAll, newRows, newVisits, keepFirst]
  | append_singleton vs v ih =>
    rw [List.map_append, List.map_singleton, Occurrence.placed_append] at hvs
    rw [visitAll_concat] at hd ⊢
    have hrows := ih hvs.1 hd.of_enter
    rcases (c.visitAll path fileId vs).enter_cases
      (v.occurrence path fileId) with ⟨hknown, he⟩ | ⟨hnew, he⟩
    · rw [he, hrows, newRows, newRows,
        newVisits_concat_of_known ((mem_keys_visitAll vs _).mp hknown)]
    · have haround : ∀ k, classAround path v.above = some k →
          k ∈ (c.visitAll path fileId vs).entities.map (·.key) := by
        intro k hk
        obtain ⟨-, z, hz, -, rfl⟩ := hvs.2.1 k hk
        obtain ⟨w, hw, rfl⟩ := List.mem_map.mp hz
        exact (mem_keys_visitAll vs _).mpr (.inr (List.mem_map_of_mem hw))
      have hlength : (c.visitAll path fileId vs).entities.length =
          c.entities.length + (c.newVisits path vs).length := by
        rw [hrows, List.length_append, length_newRows]
      rw [he, entities_pushEntity, rowFor_occurrence hd.of_enter haround, hlength, hrows,
        newRows_concat_of_new (mt (mem_keys_visitAll vs _).mpr hnew), List.append_assoc]

/-! ## Discovered symbols -/

/-- The symbol that a visit discovers, if its key is new and it has a body. -/
def foundAt (path : String) (c : Catalog) (fileId : Nat) (v : Visit σ) : List (Discovered σ) :=
  if v.kind.isExecutable ∧ v.key path ∉ c.entities.map (·.key) then
    [⟨c.entities.length + 1, fileId, v.name, v.symbol⟩] else []

/-- The symbols that visits discover one after another. -/
def foundAlong (path : String) (c : Catalog) (fileId : Nat) : List (Visit σ) → List (Discovered σ)
  | [] => []
  | v :: vs =>
    c.foundAt path fileId v ++ foundAlong path (c.enter (v.occurrence path fileId)) fileId vs

theorem foundAlong_append (vs ws : List (Visit σ)) : c.foundAlong path fileId (vs ++ ws) =
    c.foundAlong path fileId vs ++ (c.visitAll path fileId vs).foundAlong path fileId ws := by
  induction vs generalizing c with
  | nil => rfl
  | cons v vs ih => rw [List.cons_append, foundAlong, foundAlong, ih, List.append_assoc]; rfl

theorem foundBy_addEntity (above : List (String × Kind)) (owner : Option Nat) (name : String)
    (kind : Kind) (symbol : σ) :
    foundBy (draft fileId (dotted path above) owner name kind) symbol
        (c.addEntity (draft fileId (dotted path above) owner name kind)).2 =
      c.foundAt path fileId ⟨above, name, kind, symbol⟩ := by
  rcases c.addEntity_cases (draft fileId (dotted path above) owner name kind) with
    ⟨e, he, ⟨hname, hpath⟩, hadd⟩ | ⟨hnew, hadd⟩
  · have hknown : Visit.key path ⟨above, name, kind, symbol⟩ ∈ c.entities.map (·.key) :=
      List.mem_map.mpr ⟨e, he, Prod.ext hname hpath⟩
    rw [hadd, foundAt, if_neg fun h => h.2 hknown]
    simp [foundBy, Registration.isCreated]
  · have hunknown : Visit.key path ⟨above, name, kind, symbol⟩ ∉ c.entities.map (·.key) := by
      intro hmem
      obtain ⟨e, he, hkey⟩ := List.mem_map.mp hmem
      exact hnew e he (Prod.mk.inj hkey)
    rw [hadd, foundAt, foundBy]
    simp [hunknown, Registration.isCreated, Registration.id, draft]

theorem visitAll_eq_foldl (vs : List (Visit σ)) :
    c.visitAll path fileId vs = (vs.map (·.occurrence path fileId)).foldl enter c := by
  rw [visitAll, List.foldl_map]

variable (path fileId)

mutual

theorem found_declareOne :
    (d : Declaration σ) → (above : List (String × Kind)) → (owner : Option Nat) →
    (c : Catalog) → c.Hands (classAround path above) owner →
    (declareOne fileId (dotted path above) owner c d).2 = c.foundAlong path fileId (d.visits above)
  | .mk name kind symbol children, above, owner, c, h => by
    have hinside := hands_addEntity fileId c (dotted path above) name owner kind
    rw [← classAround_concat path above (name, kind)] at hinside
    have hrest := found_declareAll children (above ++ [(name, kind)]) _ _ hinside
    rw [dotted_concat] at hrest
    rw [declareOne, Declaration.visits, foundAlong, Visit.occurrence, Visit.container,
      h.enter_eq, ← hrest, ← foundBy_addEntity above owner name kind symbol]
    rfl

theorem found_declareAll : (ds : List (Declaration σ)) → (above : List (String × Kind)) →
    (owner : Option Nat) → (c : Catalog) → c.Hands (classAround path above) owner →
    (declareAll fileId (dotted path above) owner c ds).2 =
      c.foundAlong path fileId (Declaration.visitsAll above ds)
  | [], _, _, _, _ => rfl
  | d :: ds, above, owner, c, h => by
    have hfirst : (declareOne fileId (dotted path above) owner c d).1 =
        c.visitAll path fileId (d.visits above) := by
      rw [visitAll_eq_foldl, Declaration.map_occurrence_visits,
        declareOne_eq_foldl fileId d _ _ _ _ h]
    have hhands : (c.visitAll path fileId (d.visits above)).Hands
        (classAround path above) owner := by
      rw [visitAll_eq_foldl]
      exact h.foldl_enter _
    rw [declareAll, Declaration.visitsAll, foundAlong_append, ← found_declareOne d above owner c h,
      ← found_declareAll ds above owner _ hhands, ← hfirst]

end

variable {path fileId}

/-- Visits discover the symbols of the new ones. -/
theorem foundAlong_eq {vs : List (Visit σ)}
    (hvs : Occurrence.Placed [] (vs.map (·.occurrence path fileId))) :
    c.foundAlong path fileId vs = c.newSymbols path fileId vs := by
  induction vs using List.reverseRecOn with
  | nil => simp [foundAlong, newSymbols, newVisits, keepFirst]
  | append_singleton vs v ih =>
    rw [List.map_append, List.map_singleton, Occurrence.placed_append] at hvs
    rw [foundAlong_append, ih hvs.1, foundAlong, foundAlong, List.append_nil, foundAt]
    have hkeys : v.key path ∈ (c.visitAll path fileId vs).entities.map (·.key) ↔
        v.key path ∈ c.entities.map (·.key) ∨ v.key path ∈ vs.map (·.key path) :=
      mem_keys_visitAll vs _
    by_cases hknown : v.key path ∈ (c.visitAll path fileId vs).entities.map (·.key)
    · rw [if_neg fun h => h.2 hknown, List.append_nil, newSymbols, newSymbols,
        newVisits_concat_of_known (hkeys.mp hknown)]
    · have hlength : (c.visitAll path fileId vs).entities.length =
          c.entities.length + (c.newVisits path vs).length := by
        rw [entities_visitAll hvs.1 fun _ _ => id, List.length_append, length_newRows]
      rw [newSymbols, newSymbols, newVisits_concat_of_new (mt hkeys.mpr hknown), List.zipIdx_append,
        List.filter_append, List.map_append, hlength]
      cases hkind : v.kind.isExecutable <;> simp [hkind, hknown, Nat.add_right_comm]

/-! ## Declarations -/

/-- Registering a forest adds a row for each new declaration, in preorder. -/
structure AddsPreorder (c : Catalog) (fileId : Nat) (path : String) (ds : List (Declaration σ)) :
    Prop where
  files : (c.declare fileId path ds).1.files = c.files
  calls : (c.declare fileId path ds).1.calls = c.calls
  /-- The rows that are there stay, and the new ones come after them, numbered on. -/
  entities : (c.declare fileId path ds).1.entities =
    c.entities ++ c.newRows path (c.declare fileId path ds).1 fileId (Declaration.visitsAll [] ds)
  /-- What is discovered are the new rows with a body, with the symbols of their declarations. -/
  discovered : (c.declare fileId path ds).2 = c.newSymbols path fileId (Declaration.visitsAll [] ds)
  /-- A second time nothing is new. -/
  again : (c.declare fileId path ds).1.declare fileId path ds = ((c.declare fileId path ds).1, [])

theorem declare_eq_visitAll (c : Catalog) (ds : List (Declaration σ)) :
    (c.declare fileId path ds).1 = c.visitAll path fileId (Declaration.visitsAll [] ds) := by
  rw [visitAll_eq_foldl, Declaration.map_occurrence_visitsAll, declare_eq_foldl]
  rfl

theorem placed_visitsAll (ds : List (Declaration σ)) :
    Occurrence.Placed [] ((Declaration.visitsAll [] ds).map (·.occurrence path fileId)) := by
  rw [Declaration.map_occurrence_visitsAll]
  exact Declaration.placed_occurrencesAll ds fun k hk => by cases hk

/-- Visited keys are not new. -/
theorem newVisits_visitAll (c : Catalog) (vs : List (Visit σ)) :
    (c.visitAll path fileId vs).newVisits path vs = [] := by
  rw [newVisits, List.filter_eq_nil_iff]
  intro v hv
  have hknown : v.key path ∈ (c.visitAll path fileId vs).entities.map (·.key) :=
    (mem_keys_visitAll vs _).mpr (.inr (List.mem_map_of_mem (mem_of_mem_keepFirst _ hv)))
  simpa using hknown

theorem entities_declare (c : Catalog) (ds : List (Declaration σ)) :
    (c.declare fileId path ds).1.entities =
    c.entities ++
      c.newRows path (c.declare fileId path ds).1 fileId (Declaration.visitsAll [] ds) := by
  rw [declare_eq_visitAll]
  exact entities_visitAll (placed_visitsAll ds) fun _ _ => id

theorem found_declare (c : Catalog) (ds : List (Declaration σ)) :
    (c.declare fileId path ds).2 = c.newSymbols path fileId (Declaration.visitsAll [] ds) := by
  rw [← foundAlong_eq (placed_visitsAll ds)]
  exact found_declareAll path fileId ds [] none c rfl

theorem declare_again (c : Catalog) (ds : List (Declaration σ)) :
    (c.declare fileId path ds).1.declare fileId path ds = ((c.declare fileId path ds).1, []) := by
  have hnone : (c.declare fileId path ds).1.newVisits path (Declaration.visitsAll [] ds) = [] := by
    rw [declare_eq_visitAll, newVisits_visitAll]
  obtain ⟨rows, hdeclared⟩ := declared_declare (c.declare fileId path ds).1 fileId path ds
  refine Prod.ext (eq_of_tables hdeclared.files ?_ hdeclared.calls) ?_
  · rw [entities_declare, newRows, hnone]
    exact List.append_nil _
  · rw [found_declare, newSymbols, hnone]
    rfl

/-- **Declarations are cataloged in preorder, once for each key.** Whatever is in the catalog,
registering a forest leaves the rows that are there, adds one for each declaration with a new key in
the order of visits, and discovers those of them that have a body. -/
theorem declare_adds_preorder (c : Catalog) (fileId : Nat) (path : String)
    (ds : List (Declaration σ)) :
    c.AddsPreorder fileId path ds := by
  obtain ⟨rows, hdeclared⟩ := declared_declare c fileId path ds
  exact ⟨hdeclared.files, hdeclared.calls, c.entities_declare ds, c.found_declare ds,
    c.declare_again ds⟩

-- the second `Cart` has no row of its own, and what is inside it belongs to the first
example : ((empty.declare 1 "app"
    [.mk "Cart" .classType () [.mk "add" .method () []], .mk "run" .function () [],
      .mk "Cart" .classType () [.mk "add" .method () [], .mk "drop" .method () []]]).1.entities.map
        fun e =>
        (e.id, e.name, e.importPath, e.owner)) =
    [(1, "Cart", "app", none), (2, "add", "app.Cart", some 1), (3, "run", "app", none),
      (4, "drop", "app.Cart", some 1)] := by
  decide

end Catalog

end CallAtlas
