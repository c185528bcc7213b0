/-!
# Indexes

An `Index` keeps one value for each key. A value that is set takes the place of the earlier one. The
view of an index is `Index.get?` : each operation comes with the lemma that says what is found in
its result.
-/

namespace CallAtlas

/-- Values by key. -/
structure Index (κ α : Type) where
  entries : List (κ × α) := []
  deriving DecidableEq, Repr

namespace Index

variable {κ α : Type} [DecidableEq κ]

/-- The value of a key. -/
def get? (x : Index κ α) (k : κ) : Option α :=
  x.entries.lookup k

/-- Remove a key. -/
def erase (x : Index κ α) (k : κ) : Index κ α :=
  ⟨x.entries.filter (·.1 != k)⟩

/-- Set the value of a key. -/
def insert (x : Index κ α) (k : κ) (a : α) : Index κ α :=
  ⟨(k, a) :: (x.erase k).entries⟩

@[simp]
theorem get?_empty {k : κ} : ({} : Index κ α).get? k = none :=
  rfl

/-- Leaving out the entries of one key keeps what is found under another. -/
theorem lookup_filter_ne {k j : κ} (h : j ≠ k) :
    (es : List (κ × α)) → (es.filter (·.1 != k)).lookup j = es.lookup j
  | [] => rfl
  | (i, a) :: es => by
    have ih := lookup_filter_ne h es
    by_cases hi : i = k
    · subst hi
      have hj : (j == i) = false := by simpa using h
      simp [List.lookup_cons, ih, hj]
    · simp [hi, List.lookup_cons, ih]

theorem get?_erase_of_ne {x : Index κ α} {k j : κ} (h : j ≠ k) : (x.erase k).get? j = x.get? j :=
  lookup_filter_ne h x.entries

@[simp]
theorem get?_erase_self {x : Index κ α} {k : κ} : (x.erase k).get? k = none := by
  rw [erase, get?, List.lookup_eq_none_iff]
  intro e he
  have hne : e.1 ≠ k := by simpa using (List.mem_filter.mp he).2
  simpa using hne.symm

@[simp]
theorem get?_insert_self {x : Index κ α} {k : κ} {a : α} : (x.insert k a).get? k = some a := by
  simp [insert, get?]

theorem get?_insert_of_ne {x : Index κ α} {k j : κ} {a : α} (h : j ≠ k) :
    (x.insert k a).get? j = x.get? j := by
  have hj : (j == k) = false := by simpa using h
  simp only [insert, get?, List.lookup_cons, hj]
  exact get?_erase_of_ne h

theorem get?_insert {x : Index κ α} {k j : κ} {a : α} :
    (x.insert k a).get? j = if j = k then some a else x.get? j := by
  split
  · rename_i h
    rw [h, get?_insert_self]
  · rename_i h
    exact get?_insert_of_ne h

end Index

end CallAtlas
