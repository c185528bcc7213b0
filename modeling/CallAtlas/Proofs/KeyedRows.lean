import Mathlib.Data.List.Dedup
import Mathlib.Data.List.Induction
import Mathlib.Data.List.Sort
import CallAtlas.Proofs.CatalogRuns
import CallAtlas.Store.Database
import CallAtlas.Text.Decimal

/-!
# Rows by key

Read as a number with the highest byte first (`Key.value`), the key of an id of 64 bits is the id
again, and keys of one length are ordered as their numbers are. So the order of keys is the order of
ids over all 64 bits (`rowKey_lt_rowKey_iff`).

`latestRows` reduces a list of rows to the last one of each id, by ascending id. A table that is
replaced by rows under the keys of their ids lists exactly these (`KeyTable.values_replace`). So a
database gives a catalog back with the last row of each id, whatever it held before
(`Database.load_persist`). The tables of a well-formed catalog are numbered in order, and it comes
back as it was, with its indexes.
-/

namespace CallAtlas

/-! ## Keys as numbers -/

/-- Read a key after bytes of value `n`. -/
def Key.valueFrom (n : Nat) (k : Key) : Nat :=
  k.foldl (fun n b => n * 256 + b.toNat) n

/-- The number that a key writes, its highest byte first. -/
def Key.value (k : Key) : Nat :=
  k.valueFrom 0

namespace Key

theorem valueFrom_cons (n : Nat) (b : UInt8) (k : Key) :
    valueFrom n (b :: k) = valueFrom (n * 256 + b.toNat) k := rfl

/-- A smaller number in front outweighs what follows. -/
theorem valueFrom_lt_valueFrom : {k k' : Key} → {n n' : Nat} → k.length = k'.length → n < n' →
    valueFrom n k < valueFrom n' k'
  | [], [], _, _, _, hn => hn
  | b :: k, b' :: k', n, n', hlen, hn => by
    have hb : b.toNat < 256 := b.toNat_lt
    rw [valueFrom_cons, valueFrom_cons]
    exact valueFrom_lt_valueFrom (Nat.succ.inj hlen) (by omega)

/-- Keys of one length with the same bytes in front are ordered as numbers. -/
theorem lt_iff_valueFrom_lt : {k k' : Key} → (n : Nat) → k.length = k'.length →
    (k < k' ↔ valueFrom n k < valueFrom n k')
  | [], [], n, _ => by simp [valueFrom]
  | b :: k, b' :: k', n, hlen => by
    have hlen := Nat.succ.inj hlen
    rw [List.cons_lt_cons_iff, valueFrom_cons, valueFrom_cons, UInt8.lt_iff_toNat_lt,
      ← UInt8.toNat_inj]
    rcases Nat.lt_trichotomy b.toNat b'.toNat with hb | hb | hb
    · have : valueFrom (n * 256 + b.toNat) k < valueFrom (n * 256 + b'.toNat) k' :=
        valueFrom_lt_valueFrom hlen (by omega)
      simp [hb, this]
    · simp [hb, lt_iff_valueFrom_lt (n * 256 + b'.toNat) hlen]
    · have : valueFrom (n * 256 + b'.toNat) k' < valueFrom (n * 256 + b.toNat) k :=
        valueFrom_lt_valueFrom hlen.symm (by omega)
      constructor
      · rintro (h | ⟨h, -⟩) <;> omega
      · omega

end Key

/-! ## Keys of ids -/

/-- A byte more of an id. -/
theorem shift_append_byte (id shift : Nat) :
    (id >>> (shift + 8)) * 256 + (id >>> shift).toUInt8.toNat = id >>> shift := by
  rw [Nat.shiftRight_add, Nat.toUInt8_eq, UInt8.toNat_ofNat']
  omega

/-- The key of an id of 64 bits writes the id. -/
theorem value_rowKey {id : Nat} (h : id < Text.Decimal.wordLimit) : (rowKey id).value = id := by
  have htop : id >>> 64 = 0 := by
    rw [Text.Decimal.wordLimit] at h
    omega
  have hstep := shift_append_byte id
  have hfront : (rowKey id).value = Key.valueFrom (id >>> 64) (rowKey id) := by rw [htop, Key.value]
  rw [hfront]
  simp only [rowKey, Key.valueFrom, List.map_cons, List.map_nil, List.foldl_cons, List.foldl_nil]
  rw [hstep 56, hstep 48, hstep 40, hstep 32, hstep 24, hstep 16, hstep 8, hstep 0]
  rfl

/-- Keys are ordered as ids are. -/
theorem rowKey_lt_rowKey_iff {a b : Nat} (ha : a < Text.Decimal.wordLimit)
    (hb : b < Text.Decimal.wordLimit) : rowKey a < rowKey b ↔ a < b := by
  have hkeys : rowKey a < rowKey b ↔ (rowKey a).value < (rowKey b).value :=
    Key.lt_iff_valueFrom_lt 0 rfl
  rw [hkeys, value_rowKey ha, value_rowKey hb]

theorem rowKey_inj {a b : Nat} (ha : a < Text.Decimal.wordLimit) (hb : b < Text.Decimal.wordLimit) :
    rowKey a = rowKey b ↔ a = b := by
  constructor
  · intro h
    rw [← value_rowKey ha, h, value_rowKey hb]
  · rintro rfl
    rfl

/-! ## The last row of each id -/

section Latest

variable {ρ : Type} (id : ρ → Nat)

/-- The last row with an id. -/
def lastRow? (rows : List ρ) (i : Nat) : Option ρ :=
  rows.reverse.find? (id · == i)

/-- The last row of each id, by ascending id. -/
def latestRows (rows : List ρ) : List ρ :=
  ((rows.map id).dedup.insertionSort (· ≤ ·)).filterMap (lastRow? id rows)

variable {id}

theorem lastRow?_concat (rows : List ρ) (r : ρ) (i : Nat) :
    lastRow? id (rows ++ [r]) i = if id r = i then some r else lastRow? id rows i := by
  by_cases h : id r = i <;> simp [lastRow?, h]

theorem id_of_lastRow? {rows : List ρ} {i : Nat} {r : ρ} (h : lastRow? id rows i = some r) :
    id r = i := by
  simpa using List.find?_some h

theorem mem_of_lastRow? {rows : List ρ} {i : Nat} {r : ρ} (h : lastRow? id rows i = some r) :
    r ∈ rows :=
  List.mem_reverse.mp (List.mem_of_find?_eq_some h)

theorem mem_latestRows {rows : List ρ} {r : ρ} :
    r ∈ latestRows id rows ↔ lastRow? id rows (id r) = some r := by
  rw [latestRows, List.mem_filterMap]
  constructor
  · rintro ⟨i, -, hr⟩
    rwa [id_of_lastRow? hr]
  · intro hr
    refine ⟨id r, ?_, hr⟩
    rw [List.mem_insertionSort, List.mem_dedup]
    exact List.mem_map_of_mem (mem_of_lastRow? hr)

theorem pairwise_latestRows (rows : List ρ) : (latestRows id rows).Pairwise (id · < id ·) := by
  have hle := List.pairwise_insertionSort (· ≤ ·) (rows.map id).dedup
  have hne : ((rows.map id).dedup.insertionSort (· ≤ ·)).Nodup :=
    (List.perm_insertionSort _ _).nodup_iff.mpr (List.nodup_dedup _)
  rw [latestRows, List.pairwise_filterMap]
  refine (hle.and hne).imp fun {i j} h r hr r' hr' => ?_
  rw [id_of_lastRow? hr, id_of_lastRow? hr']
  exact Nat.lt_of_le_of_ne h.1 h.2

theorem nodup_of_ascending {rows : List ρ} (h : rows.Pairwise (id · < id ·)) :
    (rows.map id).Nodup :=
  List.nodup_iff_pairwise_ne.mpr (List.pairwise_map.mpr (h.imp Nat.ne_of_lt))

/-- Rows by ascending id are determined by which rows there are. -/
theorem eq_of_ascending {rows rows' : List ρ} (h : rows.Pairwise (id · < id ·))
    (h' : rows'.Pairwise (id · < id ·)) (hmem : ∀ r, r ∈ rows ↔ r ∈ rows') : rows = rows' := by
  refine List.Perm.eq_of_pairwise (fun a b _ _ hab hba => absurd hab (Nat.lt_asymm hba)) h h' ?_
  exact (List.perm_ext_iff_of_nodup (nodup_of_ascending h).of_map
    (nodup_of_ascending h').of_map).mpr hmem

/-- Rows by ascending id are the last rows of their ids. -/
theorem latestRows_of_ascending {rows : List ρ} (h : rows.Pairwise (id · < id ·)) :
    latestRows id rows = rows := by
  refine eq_of_ascending (pairwise_latestRows rows) h fun r => ?_
  rw [mem_latestRows]
  refine ⟨mem_of_lastRow?, fun hr => ?_⟩
  cases hlast : lastRow? id rows (id r) with
  | none =>
    have := List.find?_eq_none.mp hlast r (List.mem_reverse.mpr hr)
    simp at this
  | some r' =>
    rw [List.inj_on_of_nodup_map (nodup_of_ascending h) (mem_of_lastRow? hlast) hr
      (id_of_lastRow? hlast)]

end Latest

/-! ## Replacing a table -/

namespace KeyTable

variable {ρ : Type}

/-- Removing the keys of a table leaves nothing. -/
theorem foldl_erase_keys (t : KeyTable ρ) : t.keys.foldl erase t = [] := by
  have hmem : ∀ (ks : List Key) (t : KeyTable ρ) (e : Key × ρ), e ∈ ks.foldl erase t →
      e ∈ t ∧ e.1 ∉ ks := by
    intro ks
    induction ks with
    | nil => simp
    | cons k ks ih =>
      intro t e he
      obtain ⟨ht, hks⟩ := ih _ e he
      rw [erase, List.mem_filter, bne_iff_ne] at ht
      exact ⟨ht.1, by simp [ht.2, hks]⟩
  refine List.eq_nil_iff_forall_not_mem.mpr fun e he => ?_
  obtain ⟨ht, hk⟩ := hmem _ _ e he
  exact hk (List.mem_map_of_mem ht)

variable (id : ρ → Nat)

/-- Rows under the keys of their ids. -/
def entries (rows : List ρ) : KeyTable ρ :=
  rows.map fun r => (rowKey (id r), r)

/-- Put a row among rows by ascending id, in place of the row with its id. -/
def insertRow (r : ρ) : List ρ → List ρ
  | [] => [r]
  | x :: xs =>
    if id r < id x then r :: x :: xs
    else if id r = id x then r :: xs
    else x :: insertRow r xs

/-- Setting the key of a row puts the row among the others. -/
theorem insert_entries {r : ρ} (hr : id r < Text.Decimal.wordLimit) : (rows : List ρ) →
    (∀ x ∈ rows, id x < Text.Decimal.wordLimit) →
    (entries id rows).insert (rowKey (id r)) r = entries id (insertRow id r rows)
  | [], _ => rfl
  | x :: xs, hfit => by
    have hx := hfit x (List.mem_cons_self ..)
    have ih := insert_entries hr xs fun y hy => hfit y (List.mem_cons_of_mem _ hy)
    rw [entries, List.map_cons, KeyTable.insert, insertRow]
    simp only [rowKey_lt_rowKey_iff hr hx, rowKey_inj hr hx]
    split
    · rfl
    · split
      · rfl
      · exact congrArg _ ih

variable {id}

/-- Among ascending rows, a row takes the place of one with its id, and leaves the others. -/
theorem mem_insertRow {r y : ρ} : {rows : List ρ} → rows.Pairwise (id · < id ·) →
    (y ∈ insertRow id r rows ↔ y = r ∨ y ∈ rows ∧ id y ≠ id r)
  | [], _ => by simp [insertRow]
  | x :: xs, h => by
    obtain ⟨hhead, htail⟩ := List.pairwise_cons.mp h
    have hxs : y ∈ xs → id x < id y := hhead y
    rw [insertRow]
    split
    · have : y = x ∨ y ∈ xs → id y ≠ id r := by
        rintro (rfl | hy)
        · omega
        · have := hxs hy
          omega
      simp only [List.mem_cons]
      tauto
    · split
      · have : y ∈ xs → id y ≠ id r := fun hy => by
          have := hxs hy
          omega
        have : y = x → id y = id r := by
          rintro rfl
          omega
        simp only [List.mem_cons]
        tauto
      · have : y = x → id y ≠ id r := by
          rintro rfl
          omega
        simp only [List.mem_cons, mem_insertRow htail]
        tauto

theorem pairwise_insertRow (r : ρ) : {rows : List ρ} → rows.Pairwise (id · < id ·) →
    (insertRow id r rows).Pairwise (id · < id ·)
  | [], _ => List.pairwise_singleton ..
  | x :: xs, h => by
    obtain ⟨hhead, htail⟩ := List.pairwise_cons.mp h
    rw [insertRow]
    split
    · rename_i hlt
      refine List.pairwise_cons.mpr ⟨fun y hy => ?_, h⟩
      rcases List.mem_cons.mp hy with rfl | hy
      · exact hlt
      · exact Nat.lt_trans hlt (hhead y hy)
    · split
      · rename_i heq
        exact List.pairwise_cons.mpr ⟨fun y hy => heq ▸ hhead y hy, htail⟩
      · refine List.pairwise_cons.mpr ⟨fun y hy => ?_, pairwise_insertRow r htail⟩
        rcases (mem_insertRow htail).mp hy with rfl | ⟨hy, -⟩
        · omega
        · exact hhead y hy

variable (id)

/-- Setting rows one after another keeps the last row of each id, by ascending id. -/
theorem foldl_insert_entries (rows : List ρ) (hfit : ∀ r ∈ rows, id r < Text.Decimal.wordLimit) :
    (entries id rows).foldl (fun (t : KeyTable ρ) e => t.insert e.1 e.2) [] =
      entries id (latestRows id rows) := by
  induction rows using List.reverseRecOn with
  | nil => simp [entries, latestRows]
  | append_singleton rows r ih =>
    have hrows : ∀ x ∈ rows, id x < Text.Decimal.wordLimit := fun x hx =>
      hfit x (List.mem_append_left _ hx)
    have hlatest : ∀ x ∈ latestRows id rows, id x < Text.Decimal.wordLimit := fun x hx =>
      hrows x (mem_of_lastRow? (mem_latestRows.mp hx))
    have hasc : (latestRows id rows).Pairwise (id · < id ·) := pairwise_latestRows rows
    have hstep : entries id (rows ++ [r]) = entries id rows ++ [(rowKey (id r), r)] :=
      List.map_append ..
    rw [hstep, List.foldl_append, ih hrows, List.foldl_cons, List.foldl_nil,
      insert_entries id (hfit r (by simp)) _ hlatest]
    congr 1
    refine eq_of_ascending (pairwise_insertRow r hasc) (pairwise_latestRows _) fun x => ?_
    rw [mem_insertRow hasc, mem_latestRows, mem_latestRows, lastRow?_concat]
    by_cases hid : id r = id x
    · simp only [hid, if_true, Option.some.injEq]
      tauto
    · have : x ≠ r := fun h => hid (h ▸ rfl)
      simp [hid, this, Ne.symm hid]

/-- A table that is replaced by rows has the last row of each id, by ascending id, and nothing of
what it held before. -/
theorem replace_eq (t : KeyTable ρ) {rows : List ρ}
    (hfit : ∀ r ∈ rows, id r < Text.Decimal.wordLimit) :
    t.replace (rows.map fun r => (rowKey (id r), r)) = entries id (latestRows id rows) := by
  rw [replace, foldl_erase_keys, ← foldl_insert_entries id rows hfit, entries]

theorem values_replace (t : KeyTable ρ) {rows : List ρ}
    (hfit : ∀ r ∈ rows, id r < Text.Decimal.wordLimit) :
    (t.replace (rows.map fun r => (rowKey (id r), r))).values = latestRows id rows := by
  rw [replace_eq id t hfit, values, entries, List.map_map]
  exact List.map_id _

/-- A table of rows is made again of its own rows. -/
theorem replace_values (t t' : KeyTable ρ) {rows : List ρ}
    (hfit : ∀ r ∈ rows, id r < Text.Decimal.wordLimit) :
    t'.replace ((t.replace (rows.map fun r => (rowKey (id r), r))).values.map
      fun r => (rowKey (id r), r)) = t.replace (rows.map fun r => (rowKey (id r), r)) := by
  have hlatest : ∀ r ∈ latestRows id rows, id r < Text.Decimal.wordLimit := fun r hr =>
    hfit r (mem_of_lastRow? (mem_latestRows.mp hr))
  rw [values_replace id t hfit, replace_eq id t' hlatest, replace_eq id t hfit,
    latestRows_of_ascending (pairwise_latestRows rows)]

end KeyTable

/-! ## Catalogs in a database -/

/-- All ids are numbers of 64 bits. -/
structure Catalog.FitsWords (c : Catalog) : Prop where
  files : ∀ r ∈ c.files, r.id < Text.Decimal.wordLimit
  entities : ∀ r ∈ c.entities, r.id < Text.Decimal.wordLimit
  calls : ∀ r ∈ c.calls, r.id < Text.Decimal.wordLimit

instance (c : Catalog) : Decidable c.FitsWords :=
  decidable_of_iff ((∀ r ∈ c.files, r.id < Text.Decimal.wordLimit) ∧
    (∀ r ∈ c.entities, r.id < Text.Decimal.wordLimit) ∧
      ∀ r ∈ c.calls, r.id < Text.Decimal.wordLimit)
    ⟨fun ⟨hf, he, hc⟩ => ⟨hf, he, hc⟩, fun h => ⟨h.files, h.entities, h.calls⟩⟩

namespace Database

/-- What is kept of a catalog : the last row of each id, by ascending id. -/
theorem load_persist (d : Database) {c : Catalog} (h : c.FitsWords) :
    Backend.load (Backend.persist d c).1 =
      .ok (.ofRows (latestRows (·.id) c.files) (latestRows (·.id) c.entities)
        (latestRows (·.id) c.calls)) := by
  change Except.ok (d.store c).catalog = _
  rw [catalog, store, KeyTable.values_replace _ _ h.files, KeyTable.values_replace _ _ h.entities,
    KeyTable.values_replace _ _ h.calls]

end Database

/-- A well-formed catalog is kept as it is. -/
theorem Catalog.WellFormed.load_persist {c : Catalog} (h : c.WellFormed) (d : Database)
    (hfit : c.FitsWords) : Backend.load (Backend.persist d c).1 = .ok c := by
  rw [d.load_persist hfit, latestRows_of_ascending h.files.ascending,
    latestRows_of_ascending h.entities.ascending, latestRows_of_ascending h.calls.ascending]
  exact congrArg _ (Catalog.eq_of_tables rfl rfl rfl)

end CallAtlas
