import CallAtlas.Proofs.DeclaredOrder

/-!
# Owners and containers

`Catalog.Contained` : an owner has a row, its id is smaller than that of what it owns, and its
dotted name is the container of what it owns; a module has no owner. Entering an occurrence keeps
this, so it holds after every run of cataloging, and owners end somewhere
(`Catalog.contained_cataloged`).

An owner is found by its key alone. The kind of a row is that of the first declaration with its key
(`Catalog.KindsFirst`), so where the name of a class was given to something else before, the members
of the class are owned by that. `Catalog.ownersAreClasses_iff` says that this is the only way for an
owner to be no class.
-/

namespace CallAtlas

namespace Catalog

/-! ## Entering an occurrence -/

/-- The row that an occurrence gets if its key is new. -/
def rowFor (c : Catalog) (x : Occurrence) : EntityRow :=
  { draft x.fileId x.container (x.around.bind c.idOf?) x.name x.kind with
    id := c.entities.length + 1 }

variable {c : Catalog} {x : Occurrence} {l : List Occurrence}

theorem owner_rowFor (c : Catalog) (x : Occurrence) :
    (c.rowFor x).owner = x.ownerKey.bind c.idOf? := by
  unfold Occurrence.ownerKey
  by_cases hkind : x.kind = .module
  · simp [rowFor, draft, hkind]
  · simp [rowFor, draft, hkind]

/-- An occurrence is entered by its row if there is one, and by a new row if there is none. -/
theorem enter_cases (c : Catalog) (x : Occurrence) :
    (x.key ∈ c.entities.map (·.key) ∧ c.enter x = c) ∨
    (x.key ∉ c.entities.map (·.key) ∧ c.enter x = c.pushEntity (c.rowFor x)) := by
  rcases c.addEntity_cases (draft x.fileId x.container (x.around.bind c.idOf?) x.name x.kind) with
    ⟨e, he, ⟨hname, hpath⟩, hadd⟩ | ⟨hnew, hadd⟩
  · refine .inl ⟨List.mem_map.mpr ⟨e, he, Prod.ext hname hpath⟩, ?_⟩
    rw [enter, hadd]
  · refine .inr ⟨fun hmem => ?_, ?_⟩
    · obtain ⟨e, he, hkey⟩ := List.mem_map.mp hmem
      exact hnew e he (Prod.mk.inj hkey)
    · rw [enter, hadd]
      rfl

/-- A known key has a row with its id. -/
theorem exists_row_of_idOf? {k : String × String} {id : Nat} (h : c.idOf? k = some id) :
    ∃ r ∈ c.entities, r.key = k ∧ r.id = id := by
  rw [idOf?, entityId?_eq] at h
  obtain ⟨r, hr, rfl⟩ := Option.map_eq_some_iff.mp h
  obtain ⟨hmem, hkey⟩ := List.mem_filter.mp (List.mem_of_getLast? hr)
  refine ⟨r, hmem, ?_, rfl⟩
  rw [Bool.and_eq_true, beq_iff_eq, beq_iff_eq] at hkey
  exact Prod.ext hkey.1 hkey.2

theorem idOf?_of_mem (h : c.WellFormed) {r : EntityRow} (hr : r ∈ c.entities) :
    c.idOf? r.key = some r.id := by
  cases hid : c.idOf? r.key with
  | none => exact absurd ⟨rfl, rfl⟩ (entityId?_eq_none_iff.mp hid r hr)
  | some id =>
    obtain ⟨r', hr', hkey, rfl⟩ := exists_row_of_idOf? hid
    rw [List.inj_on_of_nodup_map h.keys hr' hr hkey]

theorem WellFormed.enter (h : c.WellFormed) (x : Occurrence) : (c.enter x).WellFormed :=
  h.addEntity _

/-! ## Containment -/

/-- Owners are older rows, and contain what they own by their dotted names. Modules have
no owner. -/
structure Contained (c : Catalog) : Prop where
  wellFormed : c.WellFormed
  owner : ∀ e ∈ c.entities, ∀ k, e.owner = some k →
    ∃ r ∈ c.entities, r.id = k ∧ r.id < e.id ∧ e.importPath = r.importPath ++ "." ++ r.name
  modules : ∀ e ∈ c.entities, e.kind = .module → e.owner = none

/-- Whether the row with id `a` owns the one with id `b`. -/
def Owns (c : Catalog) (a b : Nat) : Prop :=
  ∃ e ∈ c.entities, e.id = b ∧ e.owner = some a

namespace Contained

theorem empty : Contained empty where
  wellFormed := wellFormed_empty
  owner := by simp [Catalog.empty]
  modules := by simp [Catalog.empty]

variable (h : c.Contained)
include h

theorem addFile (s : Source) : (c.addFile s).1.Contained where
  wellFormed := h.wellFormed.addFile s
  owner := by simpa using h.owner
  modules := by simpa using h.modules

theorem enter (hx : x.IsPlaced l) : (c.enter x).Contained := by
  have hwf := h.wellFormed.enter x
  rcases c.enter_cases x with ⟨-, he⟩ | ⟨-, he⟩
  · rwa [he]
  · rw [he] at hwf ⊢
    refine ⟨hwf, fun e hmem k hk => ?_, fun e hmem hkind => ?_⟩
    · rcases List.mem_append.mp hmem with hold | hnew
      · obtain ⟨r, hr, howner⟩ := h.owner e hold k hk
        exact ⟨r, List.mem_append_left _ hr, howner⟩
      · obtain rfl := List.mem_singleton.mp hnew
        rw [owner_rowFor] at hk
        obtain ⟨key, hkey, hid⟩ := Option.bind_eq_some_iff.mp hk
        obtain ⟨r, hr, rfl, rfl⟩ := exists_row_of_idOf? hid
        have hlt := (h.wellFormed.entities.le_length hr).2
        refine ⟨r, List.mem_append_left _ hr, rfl, Nat.lt_succ_of_le hlt, ?_⟩
        exact (hx r.key (Occurrence.around_of_ownerKey hkey)).1
    · rcases List.mem_append.mp hmem with hold | hnew
      · exact h.modules e hold hkind
      · obtain rfl := List.mem_singleton.mp hnew
        have hnone : x.ownerKey = none := if_pos hkind
        rw [owner_rowFor, hnone, Option.bind_none]

/-- An owner has a smaller id than what it owns. -/
theorem lt_of_owns {a b : Nat} (hab : c.Owns a b) : a < b := by
  obtain ⟨e, he, rfl, howner⟩ := hab
  obtain ⟨r, -, rfl, hlt, -⟩ := h.owner e he a howner
  exact hlt

theorem wellFounded_owns : WellFounded c.Owns :=
  Subrelation.wf h.lt_of_owns Nat.lt_wfRel.wf

end Contained

theorem contained_of_cataloged (ops : List CatalogingOp) : (cataloged ops).Contained :=
  cataloged_induction (motive := fun c _ => c.Contained) .empty (fun s h => h.addFile s)
    (fun hx h => h.enter hx) ops

/-- **Containment follows the dotted paths.** After every run of cataloging, an owner has an older
row, and what it owns has the dotted name of the owner for its container. Modules have no owner, and
owners do not go round. -/
theorem containment_cataloged (ops : List CatalogingOp) :
    (cataloged ops).Contained ∧ WellFounded (cataloged ops).Owns :=
  ⟨contained_of_cataloged ops, (contained_of_cataloged ops).wellFounded_owns⟩

/-! ## Kinds -/

/-- The kind of a row is the kind of the first occurrence with its key. -/
def KindsFirst (c : Catalog) (l : List Occurrence) : Prop :=
  ∀ k, (c.entities.find? (·.key == k)).map (·.kind) = (l.find? (·.key == k)).map (·.kind)

namespace KindsFirst

variable (h : c.KindsFirst l)
include h

/-- A key has a row if it occurs. -/
theorem mem_keys_iff (k : String × String) : k ∈ c.entities.map (·.key) ↔ k ∈ l.map (·.key) := by
  have hsome := congrArg Option.isSome (h k)
  rw [Option.isSome_map, Option.isSome_map, Bool.eq_iff_iff, List.find?_isSome,
    List.find?_isSome] at hsome
  simpa using hsome

theorem enter (x : Occurrence) : (c.enter x).KindsFirst (l ++ [x]) := by
  intro k
  rw [List.find?_append, Option.map_or, ← h k]
  rcases c.enter_cases x with ⟨hold, he⟩ | ⟨hnew, he⟩
  · rw [he]
    by_cases hk : x.key = k
    · obtain ⟨r, hr, hkey⟩ := List.mem_map.mp hold
      have hfound : (c.entities.find? (·.key == k)).isSome := by
        rw [List.find?_isSome]
        exact ⟨r, hr, by simpa [hk] using hkey⟩
      rw [Option.or_of_isSome (by simpa using hfound)]
    · simp [hk]
  · have hlast : ([c.rowFor x].find? (·.key == k)).map (·.kind) =
        ([x].find? (·.key == k)).map (·.kind) := by
      have hkey : (c.rowFor x).key = x.key := rfl
      rw [List.find?_singleton, List.find?_singleton, hkey]
      split <;> rfl
    rw [he, entities_pushEntity, List.find?_append, Option.map_or, hlast]

/-- The row with a key has the kind of its first occurrence. -/
theorem exists_first (hwf : c.WellFormed) {r : EntityRow} (hr : r ∈ c.entities) :
    ∃ y, l.find? (·.key == r.key) = some y ∧ y.kind = r.kind := by
  have hfind : c.entities.find? (·.key == r.key) = some r := find?_key_of_mem hwf.keys hr
  have hk := h r.key
  rw [hfind, Option.map_some, eq_comm] at hk
  exact Option.map_eq_some_iff.mp hk

end KindsFirst

/-! ## Owners that are no classes -/

/-- Every owner is a class. -/
def OwnersAreClasses (c : Catalog) : Prop :=
  ∀ e ∈ c.entities, ∀ k, e.owner = some k → ∃ r ∈ c.entities, r.id = k ∧ r.kind = .classType

/-- Every owner has been declared as a class, at least once. -/
def OwnersDeclared (c : Catalog) (l : List Occurrence) : Prop :=
  ∀ e ∈ c.entities, ∀ k, e.owner = some k →
    ∃ r ∈ c.entities, r.id = k ∧ ∃ z ∈ l, z.kind = .classType ∧ z.key = r.key

end Catalog

namespace Occurrence

/-- Whether an occurrence is new after others, and the key of its owner was first given to something
that is no class. -/
def IsMisowned (before : List Occurrence) (x : Occurrence) : Prop :=
  x.key ∉ before.map (·.key) ∧
    ∃ k y, x.ownerKey = some k ∧ before.find? (·.key == k) = some y ∧ y.kind ≠ .classType

/-- Whether some occurrence of a list is misowned after those before it. -/
def SomeMisowned (l : List Occurrence) : Prop :=
  ∃ before x after, l = before ++ x :: after ∧ x.IsMisowned before

/-- Whether what is declared as a class is declared as nothing else. -/
def ClassesOnly (l : List Occurrence) : Prop :=
  ∀ x ∈ l, ∀ y ∈ l, x.key = y.key → x.kind = .classType → y.kind = .classType

theorem someMisowned_concat {l : List Occurrence} {x : Occurrence} :
    SomeMisowned (l ++ [x]) ↔ SomeMisowned l ∨ x.IsMisowned l := by
  constructor
  · rintro ⟨before, y, after, hl, hy⟩
    rcases List.eq_nil_or_concat after with rfl | ⟨after, z, rfl⟩
    · obtain ⟨rfl, hxy⟩ := List.append_inj' hl rfl
      obtain rfl := List.singleton_inj.mp hxy
      exact .inr hy
    · have hl' : l ++ [x] = (before ++ y :: after) ++ [z] := by simpa using hl
      exact .inl ⟨before, y, after, (List.append_inj' hl' rfl).1, hy⟩
  · rintro (⟨before, y, after, rfl, hy⟩ | hx)
    · exact ⟨before, y, after ++ [x], by simp, hy⟩
    · exact ⟨l, x, [], rfl, hx⟩

end Occurrence

namespace Catalog

variable {c : Catalog} {x : Occurrence} {l : List Occurrence}

/-- A new row has a class for its owner, or none, unless its occurrence is misowned. -/
theorem owner_rowFor_isClass_iff (hwf : c.WellFormed) (hkinds : c.KindsFirst l)
    (hnew : x.key ∉ c.entities.map (·.key)) :
    (∀ k, (c.rowFor x).owner = some k → ∃ r ∈ c.entities, r.id = k ∧ r.kind = .classType) ↔
      ¬x.IsMisowned l := by
  rw [owner_rowFor]
  constructor
  · rintro hclass ⟨-, key, y, howner, hy, hkind⟩
    have hmem : key ∈ c.entities.map (·.key) := by
      rw [hkinds.mem_keys_iff]
      exact List.mem_map.mpr ⟨y, List.mem_of_find?_eq_some hy, by simpa using List.find?_some hy⟩
    obtain ⟨r, hr, rfl⟩ := List.mem_map.mp hmem
    have hid : x.ownerKey.bind c.idOf? = some r.id := by
      rw [howner, Option.bind_some, idOf?_of_mem hwf hr]
    obtain ⟨r', hr', hsame, hclass⟩ := hclass r.id hid
    rw [List.inj_on_of_nodup_map hwf.entities.nodup hr' hr hsame] at hclass
    obtain ⟨y', hy', hkind'⟩ := hkinds.exists_first hwf hr
    rw [hy] at hy'
    rw [Option.some.inj hy', hkind'] at hkind
    exact hkind hclass
  · intro hmis k hk
    obtain ⟨key, howner, hid⟩ := Option.bind_eq_some_iff.mp hk
    obtain ⟨r, hr, rfl, rfl⟩ := exists_row_of_idOf? hid
    refine ⟨r, hr, rfl, ?_⟩
    obtain ⟨y, hy, hkind⟩ := hkinds.exists_first hwf hr
    rw [← hkind]
    by_contra hne
    rw [hkinds.mem_keys_iff] at hnew
    exact hmis ⟨hnew, r.key, y, howner, hy, hne⟩

/-- All owners are classes after a new row if they were before and its own owner is one. -/
theorem ownersAreClasses_pushEntity (h : c.Contained) (e : EntityRow)
    (hid : e.id = c.entities.length + 1)
    (hold : ∀ k, e.owner = some k → ∃ r ∈ c.entities, r.id = k) :
    (c.pushEntity e).OwnersAreClasses ↔ c.OwnersAreClasses ∧
      ∀ k, e.owner = some k → ∃ r ∈ c.entities, r.id = k ∧ r.kind = .classType := by
  -- the new row has a new id, so it is not the owner of anything
  have holder : ∀ k, (∃ r ∈ c.entities, r.id = k) → ∀ r ∈ (c.pushEntity e).entities, r.id = k →
      r ∈ c.entities := by
    rintro k ⟨r₀, hr₀, rfl⟩ r hr hk
    rcases List.mem_append.mp hr with hr | hr
    · exact hr
    · have hle := (h.wellFormed.entities.le_length hr₀).2
      rw [List.mem_singleton.mp hr, hid] at hk
      omega
  constructor
  · intro hall
    refine ⟨fun e' he' k hk => ?_, fun k hk => ?_⟩
    · obtain ⟨r, hr, hrk, hkind⟩ := hall e' (List.mem_append_left _ he') k hk
      obtain ⟨r₀, hr₀, hrk₀, -⟩ := h.owner e' he' k hk
      exact ⟨r, holder k ⟨r₀, hr₀, hrk₀⟩ r hr hrk, hrk, hkind⟩
    · obtain ⟨r, hr, hrk, hkind⟩ :=
        hall e (List.mem_append_right _ (List.mem_singleton.mpr rfl)) k hk
      exact ⟨r, holder k (hold k hk) r hr hrk, hrk, hkind⟩
  · rintro ⟨hall, hnew⟩ e' he' k hk
    have hclass : ∃ r ∈ c.entities, r.id = k ∧ r.kind = .classType := by
      rcases List.mem_append.mp he' with he' | he'
      · exact hall e' he' k hk
      · rw [List.mem_singleton.mp he'] at hk
        exact hnew k hk
    obtain ⟨r, hr, hrk⟩ := hclass
    exact ⟨r, List.mem_append_left _ hr, hrk⟩

/-- Entering keeps all owners classes, unless the occurrence is misowned. -/
theorem ownersAreClasses_enter (h : c.Contained) (hkinds : c.KindsFirst l) (x : Occurrence) :
    (c.enter x).OwnersAreClasses ↔ c.OwnersAreClasses ∧ ¬x.IsMisowned l := by
  rcases c.enter_cases x with ⟨hold, he⟩ | ⟨hnew, he⟩
  · have hnot : ¬x.IsMisowned l := fun hmis => hmis.1 ((hkinds.mem_keys_iff x.key).mp hold)
    rw [he, and_iff_left hnot]
  · have hold : ∀ k, (c.rowFor x).owner = some k → ∃ r ∈ c.entities, r.id = k := by
      intro k hk
      rw [owner_rowFor] at hk
      obtain ⟨key, -, hid⟩ := Option.bind_eq_some_iff.mp hk
      obtain ⟨r, hr, -, hrk⟩ := exists_row_of_idOf? hid
      exact ⟨r, hr, hrk⟩
    rw [he, ownersAreClasses_pushEntity h _ rfl hold,
      owner_rowFor_isClass_iff h.wellFormed hkinds hnew]

theorem OwnersDeclared.enter (h : c.OwnersDeclared l) (hx : x.IsPlaced l) :
    (c.enter x).OwnersDeclared (l ++ [x]) := by
  have hmono : ∀ {r : EntityRow}, (∃ z ∈ l, z.kind = .classType ∧ z.key = r.key) →
      ∃ z ∈ l ++ [x], z.kind = .classType ∧ z.key = r.key :=
    fun ⟨z, hz, hclass⟩ => ⟨z, List.mem_append_left _ hz, hclass⟩
  rcases c.enter_cases x with ⟨-, he⟩ | ⟨-, he⟩
  · intro e hmem k hk
    rw [he] at hmem ⊢
    obtain ⟨r, hr, hrk, hz⟩ := h e hmem k hk
    exact ⟨r, hr, hrk, hmono hz⟩
  · intro e hmem k hk
    rw [he] at hmem ⊢
    rcases List.mem_append.mp hmem with hmem | hmem
    · obtain ⟨r, hr, hrk, hz⟩ := h e hmem k hk
      exact ⟨r, List.mem_append_left _ hr, hrk, hmono hz⟩
    · rw [List.mem_singleton.mp hmem, owner_rowFor] at hk
      obtain ⟨key, hkey, hid⟩ := Option.bind_eq_some_iff.mp hk
      obtain ⟨r, hr, rfl, hrk⟩ := exists_row_of_idOf? hid
      exact ⟨r, List.mem_append_left _ hr, hrk,
        hmono (hx r.key (Occurrence.around_of_ownerKey hkey)).2⟩

/-- What a run of cataloging keeps about owners. -/
structure OwnersTold (c : Catalog) (l : List Occurrence) : Prop where
  contained : c.Contained
  kinds : c.KindsFirst l
  classes : c.OwnersAreClasses ↔ ¬Occurrence.SomeMisowned l
  declared : c.OwnersDeclared l

namespace OwnersTold

theorem empty : OwnersTold empty [] where
  contained := .empty
  kinds := fun _ => rfl
  classes := by simp [OwnersAreClasses, Occurrence.SomeMisowned, Catalog.empty]
  declared := by simp [OwnersDeclared, Catalog.empty]

theorem addFile (h : c.OwnersTold l) (s : Source) : (c.addFile s).1.OwnersTold l where
  contained := h.contained.addFile s
  kinds := by simpa [KindsFirst] using h.kinds
  classes := by simpa [OwnersAreClasses] using h.classes
  declared := by simpa [OwnersDeclared] using h.declared

theorem enter (h : c.OwnersTold l) (hx : x.IsPlaced l) : (c.enter x).OwnersTold (l ++ [x]) where
  contained := h.contained.enter hx
  kinds := h.kinds.enter x
  classes := by
    rw [ownersAreClasses_enter h.contained h.kinds, h.classes,
      Occurrence.someMisowned_concat, not_or]
  declared := h.declared.enter hx

/-- Where classes are declared as nothing else, all owners are classes. -/
theorem ownersAreClasses (h : c.OwnersTold l) (hl : Occurrence.ClassesOnly l) :
    c.OwnersAreClasses := by
  intro e he k hk
  obtain ⟨r, hr, hrk, z, hz, hclass, hkey⟩ := h.declared e he k hk
  obtain ⟨y, hy, hkind⟩ := h.kinds.exists_first h.contained.wellFormed hr
  have hfirst : y.key = r.key := by simpa using List.find?_some hy
  refine ⟨r, hr, hrk, ?_⟩
  rw [← hkind]
  exact hl z hz y (List.mem_of_find?_eq_some hy) (hkey.trans hfirst.symm) hclass

end OwnersTold

theorem ownersTold_cataloged (ops : List CatalogingOp) :
    (cataloged ops).OwnersTold (CatalogingOp.occurrencesAll ops) :=
  cataloged_induction .empty (fun s h => h.addFile s) (fun hx h => h.enter hx) ops

/-- **Owners are classes unless a name was taken before.** After every run of cataloging, each owner
has been declared as a class. All owners are classes exactly if nothing new was declared in a class
whose key had first been given to something else, so always if what is declared as a class is
declared as nothing else. -/
theorem ownersAreClasses_cataloged_iff (ops : List CatalogingOp) :
    ((cataloged ops).OwnersAreClasses ↔
      ¬Occurrence.SomeMisowned (CatalogingOp.occurrencesAll ops)) ∧
    (cataloged ops).OwnersDeclared (CatalogingOp.occurrencesAll ops) ∧
    (Occurrence.ClassesOnly (CatalogingOp.occurrencesAll ops) → (cataloged ops).OwnersAreClasses) :=
  have h := ownersTold_cataloged ops
  ⟨h.classes, h.declared, h.ownersAreClasses⟩

/-- A file with a function, and a class of the same name with a method. -/
def sameName : List CatalogingOp :=
  [.addFile ⟨"lib.rs", "lib", 0⟩,
    .declare 1 "lib" [.mk "A" .function () [], .mk "A" .classType () [.mk "m" .method () []]]]

/-- The method of the class is owned by the function. -/
theorem ownersAreClasses_sameName :
    (cataloged sameName).entities.map (fun e => (e.id, e.name, e.kind, e.owner)) =
      [(1, "A", .function, none), (2, "m", .method, some 1)] ∧
    ¬(cataloged sameName).OwnersAreClasses := by
  refine ⟨by decide, fun h => ?_⟩
  obtain ⟨r, hr, hid, hkind⟩ := h ⟨⟨1, "m", .method, "lib.A", some 1⟩, 2⟩ (by decide) 1 rfl
  have hrows : ∀ r ∈ (cataloged sameName).entities, r.id = 1 → r.kind = .function := by decide
  rw [hrows r hr hid] at hkind
  cases hkind

end Catalog

end CallAtlas
