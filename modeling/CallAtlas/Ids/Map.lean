import CallAtlas.Ids.Set

/-!
# Maps keyed by ids

An `IdMap` lists its entries by ascending id, one for each id. A later value for an id takes the
place of the earlier one.
-/

namespace CallAtlas

/-- A finite map from ids. -/
structure IdMap (α : Type) where
  toList : List (Nat × α)
  ascending : toList.Pairwise (·.1 < ·.1)

namespace IdMap

variable {α : Type}

/-- Maps with the same entries are equal. -/
theorem eq_of_toList {m n : IdMap α} (h : m.toList = n.toList) : m = n := by
  obtain ⟨l, hl⟩ := m
  obtain ⟨k, hk⟩ := n
  obtain rfl : l = k := h
  rfl

/-- The map without entries. -/
def empty : IdMap α :=
  ⟨[], .nil⟩

instance : EmptyCollection (IdMap α) :=
  ⟨empty⟩

/-- The number of entries. -/
def size (m : IdMap α) : Nat :=
  m.toList.length

/-- Whether there is no entry. -/
def isEmpty (m : IdMap α) : Bool :=
  m.toList.isEmpty

/-- The ids with an entry, ascending. -/
def ids (m : IdMap α) : List Nat :=
  m.toList.map (·.1)

/-- The value of an id. -/
def get? (m : IdMap α) (i : Nat) : Option α :=
  (m.toList.find? (·.1 == i)).map (·.2)

/-- Whether an id has an entry. -/
def contains (m : IdMap α) (i : Nat) : Bool :=
  m.toList.any (·.1 == i)

/-- What an id has is an entry. -/
theorem mem_of_get? {m : IdMap α} {i : Nat} {a : α} (h : m.get? i = some a) :
    (i, a) ∈ m.toList := by
  obtain ⟨e, he, rfl⟩ := Option.map_eq_some_iff.mp h
  have hi : e.1 = i := by simpa using List.find?_some he
  rw [← hi]
  exact List.mem_of_find?_eq_some he

/-- In an ascending list every entry is found by its id. -/
theorem find?_of_mem {x : Nat × α} :
    {l : List (Nat × α)} → l.Pairwise (·.1 < ·.1) → x ∈ l → l.find? (·.1 == x.1) = some x
  | e :: es, h, hx => by
    obtain ⟨he, hes⟩ := List.pairwise_cons.mp h
    rcases List.mem_cons.mp hx with rfl | hx
    · simp
    · have hlt := he x hx
      have hne : (e.1 == x.1) = false := by
        simp only [beq_eq_false_iff_ne]
        omega
      rw [List.find?_cons, hne]
      exact find?_of_mem hes hx

/-- An id has exactly what its entry says. -/
theorem get?_eq_some_iff {m : IdMap α} {i : Nat} {a : α} : m.get? i = some a ↔ (i, a) ∈ m.toList :=
  ⟨mem_of_get?, fun h => by simp [get?, find?_of_mem m.ascending h]⟩

/-! ## Insertion -/

/-- Put an entry at its place in an ascending list. -/
def insertAscending (i : Nat) (a : α) : List (Nat × α) → List (Nat × α)
  | [] => [(i, a)]
  | e :: es =>
    if i < e.1 then (i, a) :: e :: es
    else if i = e.1 then (i, a) :: es
    else e :: insertAscending i a es

/-- Every entry after an insertion is the new one or an earlier one. -/
theorem mem_of_mem_insertAscending {i : Nat} {a : α} {x : Nat × α} :
    {l : List (Nat × α)} → x ∈ insertAscending i a l → x = (i, a) ∨ x ∈ l
  | [], h => by simpa [insertAscending] using h
  | e :: es, h => by
    simp only [insertAscending] at h
    split at h
    · simpa using h
    · split at h
      · rcases List.mem_cons.mp h with h | h
        · exact .inl h
        · exact .inr (List.mem_cons_of_mem _ h)
      · rcases List.mem_cons.mp h with h | h
        · exact .inr (h ▸ List.mem_cons_self ..)
        · rcases mem_of_mem_insertAscending h with h | h
          · exact .inl h
          · exact .inr (List.mem_cons_of_mem _ h)

/-- Insertion keeps the order. -/
theorem pairwise_insertAscending {i : Nat} {a : α} :
    {l : List (Nat × α)} → l.Pairwise (·.1 < ·.1) → (insertAscending i a l).Pairwise (·.1 < ·.1)
  | [], _ => by simp [insertAscending]
  | e :: es, h => by
    obtain ⟨he, hes⟩ := List.pairwise_cons.mp h
    simp only [insertAscending]
    split
    · rename_i hlt
      refine List.pairwise_cons.mpr ⟨fun x hx => ?_, h⟩
      rcases List.mem_cons.mp hx with rfl | hx
      · exact hlt
      · exact Nat.lt_trans hlt (he x hx)
    · split
      · rename_i heq
        exact List.pairwise_cons.mpr ⟨fun x hx => by have := he x hx; simp only; omega, hes⟩
      · refine List.pairwise_cons.mpr ⟨fun x hx => ?_, pairwise_insertAscending hes⟩
        rcases mem_of_mem_insertAscending hx with rfl | hx
        · simp only
          omega
        · exact he x hx

/-- Set the value of an id. -/
def insert (m : IdMap α) (i : Nat) (a : α) : IdMap α :=
  ⟨insertAscending i a m.toList, pairwise_insertAscending m.ascending⟩

/-- The map of a list of entries. The last entry of an id counts. -/
def ofList (es : List (Nat × α)) : IdMap α :=
  es.foldl (fun m e => m.insert e.1 e.2) empty

/-- The entries whose id passes a test. -/
def filterIds (m : IdMap α) (p : Nat → Bool) : IdMap α :=
  ⟨m.toList.filter (p ·.1), m.ascending.filter _⟩

/-- The entries whose id is in a set, unchanged. -/
def restrict (m : IdMap α) (keep : IdSet) : IdMap α :=
  m.filterIds (· ∈ keep)

theorem mem_restrict {m : IdMap α} {keep : IdSet} {x : Nat × α} :
    x ∈ (m.restrict keep).toList ↔ x ∈ m.toList ∧ x.1 ∈ keep := by
  simp [restrict, filterIds]

/-- Kept ids have what they had. -/
theorem get?_restrict (m : IdMap α) (keep : IdSet) (i : Nat) :
    (m.restrict keep).get? i = if i ∈ keep then m.get? i else none := by
  refine Option.ext fun a => ?_
  rw [get?_eq_some_iff, mem_restrict]
  split
  · rename_i hi
    simp [hi, get?_eq_some_iff]
  · rename_i hi
    simp [hi]

end IdMap

end CallAtlas
