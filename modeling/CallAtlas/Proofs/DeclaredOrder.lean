import Mathlib.Data.List.Basic
import CallAtlas.Proofs.RegisteredRows

/-!
# Declarations in order

A forest of declarations is read from the front : each declaration before what is inside it, and
what is inside before what comes next. `Declaration.occurrencesAll` writes them down in this order,
each with the path of its container and the key of the class around it. Registering a forest is
entering its occurrences one after another (`Catalog.declareAll_eq_foldl`) : a name that is
registered keeps its id, so the owner of an occurrence can be looked up by its key at any later
time. `Catalog.cataloged` is the catalog after a run of `CatalogingOp`s, and what is shown for one
entry holds for every such run (`Catalog.cataloged_induction`).
-/

namespace CallAtlas

/-- The key of an entity : its name and the path of its container. -/
def EntityRow.key (e : EntityRow) : String × String :=
  (e.name, e.importPath)

/-- The dotted name that the key of a class gives to what is inside. -/
def inside (key : String × String) : String :=
  key.2 ++ "." ++ key.1

/-! ## Occurrences -/

/-- A declaration outside of its tree. -/
structure Occurrence where
  fileId : Nat
  name : String
  kind : Kind
  container : String
  /-- The key of the class that it stands in directly. -/
  around : Option (String × String)
  deriving DecidableEq, Repr

namespace Occurrence

/-- The key that is declared. -/
def key (x : Occurrence) : String × String :=
  (x.name, x.container)

/-- The key of the owner. A module has none. -/
def ownerKey (x : Occurrence) : Option (String × String) :=
  if x.kind = .module then none else x.around

theorem around_of_ownerKey {x : Occurrence} {k : String × String} (h : x.ownerKey = some k) :
    x.around = some k := by
  unfold ownerKey at h
  split at h
  · cases h
  · exact h

end Occurrence

namespace Declaration

variable {σ : Type}

mutual

/-- The occurrences of a declaration and of all inside it. -/
def occurrences (fileId : Nat) (container : String) (around : Option (String × String)) :
    Declaration σ → List Occurrence
  | .mk name kind _ children =>
    ⟨fileId, name, kind, container, around⟩ ::
      occurrencesAll fileId (inside (name, container))
        (if kind = .classType then some (name, container) else none) children

/-- The occurrences of a forest. -/
def occurrencesAll (fileId : Nat) (container : String) (around : Option (String × String)) :
    List (Declaration σ) → List Occurrence
  | [] => []
  | d :: ds => d.occurrences fileId container around ++ occurrencesAll fileId container around ds

end

end Declaration

/-- The class around an occurrence is among the earlier ones, and its dotted name is
the container. -/
def Occurrence.IsPlaced (before : List Occurrence) (x : Occurrence) : Prop :=
  ∀ k, x.around = some k → x.container = inside k ∧ ∃ z ∈ before, z.kind = .classType ∧ z.key = k

/-- Each occurrence of a list is placed after those before it. -/
def Occurrence.Placed (before : List Occurrence) : List Occurrence → Prop
  | [] => True
  | x :: xs => x.IsPlaced before ∧ Placed (before ++ [x]) xs

theorem Occurrence.placed_append {before xs ys : List Occurrence} :
    Placed before (xs ++ ys) ↔ Placed before xs ∧ Placed (before ++ xs) ys := by
  induction xs generalizing before with
  | nil => simp [Placed]
  | cons x xs ih => simp [Placed, ih, and_assoc]

namespace Declaration

variable {σ : Type} {fileId : Nat}

mutual

theorem placed_occurrences : (d : Declaration σ) → {container : String} →
    {around : Option (String × String)} → {before : List Occurrence} →
    (∀ k, around = some k → container = inside k ∧ ∃ z ∈ before, z.kind = .classType ∧ z.key = k) →
    Occurrence.Placed before (d.occurrences fileId container around)
  | .mk name kind _ children, container, around, before, h => by
    rw [occurrences]
    refine ⟨h, placed_occurrencesAll children fun k hk => ?_⟩
    split at hk
    · rename_i hkind
      obtain rfl := Option.some.inj hk
      exact ⟨rfl, _, List.mem_append_right _ (List.mem_singleton.mpr rfl), hkind, rfl⟩
    · cases hk

theorem placed_occurrencesAll : (ds : List (Declaration σ)) → {container : String} →
    {around : Option (String × String)} → {before : List Occurrence} →
    (∀ k, around = some k → container = inside k ∧ ∃ z ∈ before, z.kind = .classType ∧ z.key = k) →
    Occurrence.Placed before (occurrencesAll fileId container around ds)
  | [], _, _, _, _ => trivial
  | d :: ds, container, around, before, h => by
    rw [occurrencesAll, Occurrence.placed_append]
    refine ⟨placed_occurrences d h, placed_occurrencesAll ds fun k hk => ?_⟩
    obtain ⟨hcontainer, z, hz, hclass⟩ := h k hk
    exact ⟨hcontainer, z, List.mem_append_left _ hz, hclass⟩

end

end Declaration

/-! ## Entering occurrences -/

namespace Catalog

/-- The id of a key. -/
def idOf? (c : Catalog) (key : String × String) : Option Nat :=
  c.entityId? key.1 key.2

/-- Register an occurrence, with the owner that is known under the key of the class around it. -/
def enter (c : Catalog) (x : Occurrence) : Catalog :=
  (c.addEntity (draft x.fileId x.container (x.around.bind c.idOf?) x.name x.kind)).1

variable {c : Catalog}

theorem idOf?_pushEntity (e : EntityRow) (k : String × String) :
    (c.pushEntity e).idOf? k = if k = e.key then some e.id else c.idOf? k :=
  Index.get?_insert

/-- A key that is known keeps its id. -/
theorem idOf?_addEntity_of_some {k : String × String} {id : Nat} (h : c.idOf? k = some id)
    (d : EntityDraft) : (c.addEntity d).1.idOf? k = some id := by
  cases hd : c.entityId? d.name d.importPath with
  | some id' => simpa [addEntity, hd] using h
  | none =>
    have hne : k ≠ (d.name, d.importPath) := by
      rintro rfl
      exact absurd (h.symm.trans hd) (by simp)
    simp only [addEntity, hd]
    rw [idOf?_pushEntity]
    exact (if_neg hne).trans h

/-- What is registered is known under its id. -/
theorem idOf?_addEntity_self (d : EntityDraft) :
    (c.addEntity d).1.idOf? (d.name, d.importPath) = some (c.addEntity d).2.id := by
  cases hd : c.entityId? d.name d.importPath with
  | some id =>
    simp only [addEntity, hd]
    exact hd
  | none =>
    simp only [addEntity, hd]
    rw [idOf?_pushEntity]
    exact if_pos rfl

theorem idOf?_foldl_enter_of_some {k : String × String} {id : Nat} (l : List Occurrence)
    {c : Catalog} (h : c.idOf? k = some id) : (l.foldl enter c).idOf? k = some id := by
  induction l generalizing c with
  | nil => exact h
  | cons x l ih => exact ih (idOf?_addEntity_of_some h _)

/-- The owner that is handed down to declarations is the one that is known for the class
around them. -/
def Hands (c : Catalog) (around : Option (String × String)) (owner : Option Nat) : Prop :=
  around.map c.idOf? = owner.map some

theorem Hands.bind {around : Option (String × String)} {owner : Option Nat}
    (h : c.Hands around owner) :
    around.bind c.idOf? = owner := by
  cases around with
  | none =>
    cases owner with
    | none => rfl
    | some id => simp [Hands] at h
  | some k =>
    cases owner with
    | none => simp [Hands] at h
    | some id => simpa [Hands] using h

theorem Hands.foldl_enter {around : Option (String × String)} {owner : Option Nat}
    (h : c.Hands around owner) (l : List Occurrence) : (l.foldl enter c).Hands around owner := by
  cases around with
  | none => exact h
  | some k =>
    cases owner with
    | none => simp [Hands] at h
    | some id =>
      have hid : c.idOf? k = some id := by simpa [Hands] using h
      simp [Hands, idOf?_foldl_enter_of_some l hid]

variable {σ : Type} (fileId : Nat)

/-- To enter an occurrence is to register it with the owner that is handed down. -/
theorem Hands.enter_eq {around : Option (String × String)} {owner : Option Nat}
    (h : c.Hands around owner) (container name : String) (kind : Kind) :
    c.enter ⟨fileId, name, kind, container, around⟩ =
      (c.addEntity (draft fileId container owner name kind)).1 := by
  simp only [enter, h.bind]

/-- The declarations inside are handed the id under which the one around them was registered. -/
theorem hands_addEntity (c : Catalog) (container name : String) (owner : Option Nat) (kind : Kind) :
    (c.addEntity (draft fileId container owner name kind)).1.Hands
      (if kind = .classType then some (name, container) else none)
      (if kind = .classType then
        some (c.addEntity (draft fileId container owner name kind)).2.id else none) := by
  by_cases hkind : kind = .classType
  · rw [if_pos hkind, if_pos hkind]
    exact congrArg some (idOf?_addEntity_self (draft fileId container owner name kind))
  · rw [if_neg hkind, if_neg hkind]
    rfl

mutual

theorem declareOne_eq_foldl : (d : Declaration σ) → (container : String) →
    (around : Option (String × String)) → (owner : Option Nat) → (c : Catalog) →
      c.Hands around owner →
    (declareOne fileId container owner c d).1 =
      (d.occurrences fileId container around).foldl enter c
  | .mk name kind symbol children, container, around, owner, c, h => by
    rw [declareOne, Declaration.occurrences, List.foldl_cons, h.enter_eq]
    exact declareAll_eq_foldl children _ _ _ _ (hands_addEntity fileId c container name owner kind)

theorem declareAll_eq_foldl : (ds : List (Declaration σ)) → (container : String) →
    (around : Option (String × String)) → (owner : Option Nat) → (c : Catalog) →
      c.Hands around owner →
    (declareAll fileId container owner c ds).1 =
      (Declaration.occurrencesAll fileId container around ds).foldl enter c
  | [], _, _, _, _, _ => rfl
  | d :: ds, container, around, owner, c, h => by
    rw [declareAll, Declaration.occurrencesAll, List.foldl_append,
      ← declareOne_eq_foldl d container around owner c h]
    refine declareAll_eq_foldl ds container around owner _ ?_
    rw [declareOne_eq_foldl d container around owner c h]
    exact h.foldl_enter _

end

/-- Registering what a file declares is entering its occurrences in order. -/
theorem declare_eq_foldl (c : Catalog) (importPath : String) (ds : List (Declaration σ)) :
    (c.declare fileId importPath ds).1 =
      (Declaration.occurrencesAll fileId importPath none ds).foldl enter c :=
  declareAll_eq_foldl fileId ds importPath none none c rfl

end Catalog

/-! ## Runs -/

/-- A step of cataloging : a file is registered, or what a file declares. -/
inductive CatalogingOp : Type 1 where
  | addFile (s : Source)
  | declare {σ : Type} (fileId : Nat) (importPath : String) (ds : List (Declaration σ))

namespace CatalogingOp

/-- The catalog after a step. -/
def apply (c : Catalog) : CatalogingOp → Catalog
  | .addFile s => (c.addFile s).1
  | .declare fileId importPath ds => (c.declare fileId importPath ds).1

/-- The declarations of a step in order. -/
def occurrences : CatalogingOp → List Occurrence
  | .addFile _ => []
  | .declare fileId importPath ds => Declaration.occurrencesAll fileId importPath none ds

theorem placed_occurrences (before : List Occurrence) (op : CatalogingOp) :
    Occurrence.Placed before op.occurrences := by
  cases op with
  | addFile s => trivial
  | declare fileId importPath ds =>
    exact Declaration.placed_occurrencesAll ds fun k hk => by cases hk

/-- The declarations of a run in order. -/
def occurrencesAll (ops : List CatalogingOp) : List Occurrence :=
  ops.flatMap occurrences

end CatalogingOp

namespace Catalog

/-- The catalog after a run of steps, from the catalog without rows on. -/
def cataloged (ops : List CatalogingOp) : Catalog :=
  ops.foldl CatalogingOp.apply empty

/-- What holds of the catalog without rows, and is kept by registering a file and by entering an
occurrence that is placed after those before it, holds after every run. -/
theorem cataloged_induction {motive : Catalog → List Occurrence → Prop} (start : motive empty [])
    (addFile : ∀ {c l} s, motive c l → motive (c.addFile s).1 l)
    (enter : ∀ {c l x}, x.IsPlaced l → motive c l → motive (c.enter x) (l ++ [x]))
    (ops : List CatalogingOp) : motive (cataloged ops) (CatalogingOp.occurrencesAll ops) := by
  have hfold : ∀ (xs l : List Occurrence) (c : Catalog), Occurrence.Placed l xs → motive c l →
      motive (xs.foldl Catalog.enter c) (l ++ xs) := by
    intro xs
    induction xs with
    | nil => exact fun l c _ h => by simpa using h
    | cons x xs ih =>
      intro l c hxs h
      simpa using ih (l ++ [x]) (c.enter x) hxs.2 (enter hxs.1 h)
  induction ops using List.reverseRecOn with
  | nil => exact start
  | append_singleton ops op ih =>
    have hrun : cataloged (ops ++ [op]) = op.apply (cataloged ops) := by simp [cataloged]
    have hlist : CatalogingOp.occurrencesAll (ops ++ [op]) =
        CatalogingOp.occurrencesAll ops ++ op.occurrences := by simp [CatalogingOp.occurrencesAll]
    rw [hrun, hlist]
    cases op with
    | addFile s =>
      rw [CatalogingOp.occurrences, List.append_nil]
      exact addFile s ih
    | declare fileId importPath ds =>
      rw [CatalogingOp.apply, declare_eq_foldl]
      exact hfold _ _ _ (CatalogingOp.placed_occurrences _ (.declare fileId importPath ds)) ih

end Catalog

end CallAtlas
