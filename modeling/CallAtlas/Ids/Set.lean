/-!
# Sets of ids

An `IdSet` lists its members in ascending order, each once, so two sets with the same members are
equal (`IdSet.ext`). The view of a set is membership : each operation comes with the lemma that says
who is a member of its result.
-/

namespace CallAtlas

/-- A finite set of ids. -/
structure IdSet where
  toList : List Nat
  ascending : toList.Pairwise (· < ·)
  deriving DecidableEq, Repr

namespace IdSet

instance : Membership Nat IdSet :=
  ⟨fun s i => i ∈ s.toList⟩

/-- Membership is membership in the list. -/
theorem mem_def {s : IdSet} {i : Nat} : i ∈ s ↔ i ∈ s.toList :=
  Iff.rfl

instance (s : IdSet) (i : Nat) : Decidable (i ∈ s) :=
  inferInstanceAs (Decidable (i ∈ s.toList))

/-- The number of members. -/
def size (s : IdSet) : Nat :=
  s.toList.length

/-- The set without members. -/
def empty : IdSet :=
  ⟨[], .nil⟩

instance : EmptyCollection IdSet :=
  ⟨empty⟩

/-! ## Insertion -/

/-- Put an id at its place in an ascending list. -/
def insertAscending (i : Nat) : List Nat → List Nat
  | [] => [i]
  | j :: js => if i < j then i :: j :: js else if i = j then j :: js else j :: insertAscending i js

/-- Insertion adds one member. -/
theorem mem_insertAscending {i k : Nat} : (l : List Nat) → (k ∈ insertAscending i l ↔ k = i ∨ k ∈ l)
  | [] => by simp [insertAscending]
  | j :: js => by
    have ih := mem_insertAscending (i := i) (k := k) js
    simp only [insertAscending]
    split
    · simp
    · split
      · simp_all
      · simp only [List.mem_cons, ih]
        exact ⟨by rintro (h | h | h) <;> simp [h], by rintro (h | h | h) <;> simp [h]⟩

/-- Insertion keeps the order. -/
theorem pairwise_insertAscending {i : Nat} :
    {l : List Nat} → l.Pairwise (· < ·) → (insertAscending i l).Pairwise (· < ·)
  | [], _ => by simp [insertAscending]
  | j :: js, h => by
    obtain ⟨hj, hjs⟩ := List.pairwise_cons.mp h
    simp only [insertAscending]
    split
    · rename_i hlt
      refine List.pairwise_cons.mpr ⟨fun k hk => ?_, h⟩
      rcases List.mem_cons.mp hk with rfl | hk
      · exact hlt
      · exact Nat.lt_trans hlt (hj k hk)
    · split
      · exact h
      · refine List.pairwise_cons.mpr ⟨fun k hk => ?_, pairwise_insertAscending hjs⟩
        rcases (mem_insertAscending js).mp hk with rfl | hk
        · omega
        · exact hj k hk

/-- Add an id. -/
def insert (s : IdSet) (i : Nat) : IdSet :=
  ⟨insertAscending i s.toList, pairwise_insertAscending s.ascending⟩

/-- Add all ids of a list. -/
def insertMany (s : IdSet) (ids : List Nat) : IdSet :=
  ids.foldl insert s

/-- The set of the ids of a list. -/
def ofList (ids : List Nat) : IdSet :=
  empty.insertMany ids

/-- The members of either set. -/
def union (s t : IdSet) : IdSet :=
  s.insertMany t.toList

/-- The members that pass a test. -/
def filter (s : IdSet) (p : Nat → Bool) : IdSet :=
  ⟨s.toList.filter p, s.ascending.filter p⟩

instance : Union IdSet :=
  ⟨union⟩

instance : Singleton Nat IdSet :=
  ⟨fun i => empty.insert i⟩

/-! ## Members -/

@[simp]
theorem not_mem_empty {i : Nat} : ¬ i ∈ (∅ : IdSet) :=
  List.not_mem_nil

@[simp]
theorem mem_insert {s : IdSet} {i k : Nat} : k ∈ s.insert i ↔ k = i ∨ k ∈ s :=
  mem_insertAscending s.toList

@[simp]
theorem mem_insertMany {k : Nat} :
    {s : IdSet} → {ids : List Nat} → (k ∈ s.insertMany ids ↔ k ∈ ids ∨ k ∈ s)
  | _, [] => by simp [insertMany]
  | s, i :: is => by
    have ih := @mem_insertMany k (s.insert i) is
    simp only [insertMany, List.foldl_cons] at ih ⊢
    rw [ih, mem_insert, List.mem_cons]
    exact ⟨by rintro (h | h | h) <;> simp [h], by rintro ((h | h) | h) <;> simp [h]⟩

@[simp]
theorem mem_ofList {ids : List Nat} {k : Nat} : k ∈ ofList ids ↔ k ∈ ids := by
  rw [ofList, mem_insertMany]
  exact or_iff_left not_mem_empty

@[simp]
theorem mem_union {s t : IdSet} {k : Nat} : k ∈ s ∪ t ↔ k ∈ s ∨ k ∈ t := by
  have h := @mem_insertMany k s t.toList
  exact h.trans Or.comm

@[simp]
theorem mem_filter {s : IdSet} {p : Nat → Bool} {k : Nat} : k ∈ s.filter p ↔ k ∈ s ∧ p k = true :=
  List.mem_filter

@[simp]
theorem mem_singleton {i k : Nat} : k ∈ ({i} : IdSet) ↔ k = i :=
  mem_insert.trans (or_iff_left not_mem_empty)

/-! ## Equality -/

/-- Ascending lists with the same members are equal. -/
theorem eq_of_mem_iff : {l m : List Nat} → l.Pairwise (· < ·) → m.Pairwise (· < ·) →
    (∀ k, k ∈ l ↔ k ∈ m) → l = m
  | [], [], _, _, _ => rfl
  | [], j :: _, _, _, h => absurd ((h j).mpr (List.mem_cons_self ..)) List.not_mem_nil
  | i :: _, [], _, _, h => absurd ((h i).mp (List.mem_cons_self ..)) List.not_mem_nil
  | i :: is, j :: js, hl, hm, h => by
    obtain ⟨hi, his⟩ := List.pairwise_cons.mp hl
    obtain ⟨hj, hjs⟩ := List.pairwise_cons.mp hm
    have hij : i = j := by
      rcases List.mem_cons.mp ((h i).mp (List.mem_cons_self ..)) with e | hi'
      · exact e
      · rcases List.mem_cons.mp ((h j).mpr (List.mem_cons_self ..)) with e | hj'
        · exact e.symm
        · have := hj i hi'
          have := hi j hj'
          omega
    subst hij
    refine congrArg (i :: ·) (eq_of_mem_iff his hjs fun k => ⟨fun hk => ?_, fun hk => ?_⟩)
    · rcases List.mem_cons.mp ((h k).mp (List.mem_cons_of_mem _ hk)) with e | hk'
      · have := hi k hk
        omega
      · exact hk'
    · rcases List.mem_cons.mp ((h k).mpr (List.mem_cons_of_mem _ hk)) with e | hk'
      · have := hj k hk
        omega
      · exact hk'

/-- Sets with the same members are equal. -/
theorem ext {s t : IdSet} (h : ∀ k, k ∈ s ↔ k ∈ t) : s = t := by
  obtain ⟨l, hl⟩ := s
  obtain ⟨m, hm⟩ := t
  cases eq_of_mem_iff hl hm h
  rfl

/-! ## Missing ids -/

/-- The ids of a list that are not members. -/
def missing (s : IdSet) (ids : List Nat) : List Nat :=
  ids.filter (· ∉ s)

@[simp]
theorem mem_missing {s : IdSet} {ids : List Nat} {i : Nat} :
    i ∈ s.missing ids ↔ i ∈ ids ∧ i ∉ s := by
  simp [missing]

/-- A set with a further id of a list misses less of the list. -/
theorem length_missing_lt {s t : IdSet} {ids : List Nat} {i : Nat} (hsub : ∀ k ∈ s, k ∈ t)
    (hids : i ∈ ids) (hs : i ∉ s) (ht : i ∈ t) :
    (t.missing ids).length < (s.missing ids).length := by
  have hstill : t.missing ids = (s.missing ids).filter (· ∉ t) := by
    rw [missing, missing, List.filter_filter]
    refine List.filter_congr fun k _ => ?_
    by_cases hk : k ∈ s
    · simp [hk, hsub k hk]
    · simp [hk]
  rw [hstill, List.length_filter_lt_length_iff_exists]
  exact ⟨i, mem_missing.mpr ⟨hids, hs⟩, by simpa using ht⟩

end IdSet

end CallAtlas
