import CallAtlas.Proofs.Reachability

/-!
# The closure under owners

Owners are added in rounds, each of which looks at all members again. After some rounds the members
are the ids that as many links to owners, or less, lead to from the first members
(`Projection.mem_of_steps`). Links may go round, lead to the id they start from, or lead to an id
that is not shown. A round that adds something finds an owner that was missing, so the rounds are at
most as many as the owners that are missing at the start (`Loop.exists_steps_run`). In the end all
chains of owners are in the set (`Projection.mem_withOwners`), which makes adding owners a closure
operator that distributes over unions.
-/

namespace CallAtlas

namespace Loop

variable {σ : Type}

/-- A number of steps leads from one state to another. -/
inductive Steps (l : Loop σ) : Nat → σ → σ → Prop where
  | refl (s : σ) : Steps l 0 s s
  | head {n : Nat} {s t u : σ} : l.step s = some t → Steps l n t u → Steps l (n + 1) s u

/-- A run takes no more steps than its rank at the start. -/
theorem exists_steps_run (l : Loop σ) (s : σ) : ∃ n ≤ l.rank s, l.Steps n s (l.run s) := by
  fun_induction run l s with
  | case1 s h => exact ⟨0, Nat.zero_le _, .refl s⟩
  | case2 s t h ih =>
    obtain ⟨n, hn, hsteps⟩ := ih
    exact ⟨n + 1, Nat.lt_of_le_of_lt hn (l.descends h), .head h hsteps⟩

end Loop

namespace Projection

variable {p : Projection} {keep more : IdSet}

/-! ## Chains of owners -/

/-- The owner a number of levels above an id. -/
def ownerAbove (p : Projection) : Nat → Nat → Option Nat
  | 0, i => some i
  | n + 1, i => (p.owner? i).bind (p.ownerAbove n)

theorem ownerAbove_add (p : Projection) (m n i : Nat) :
    p.ownerAbove (m + n) i = (p.ownerAbove m i).bind (p.ownerAbove n) := by
  induction m generalizing i with
  | zero => simp [ownerAbove]
  | succ m ih =>
    rw [Nat.succ_add, ownerAbove, ownerAbove, Option.bind_assoc]
    exact congrArg _ (funext ih)

/-- A closed set has all owners above its members. -/
theorem OwnerClosed.mem_of_ownerAbove {k : Set Nat} (hk : p.OwnerClosed k) {n i c : Nat}
    (hi : i ∈ k) (h : p.ownerAbove n i = some c) : c ∈ k := by
  induction n generalizing i with
  | zero =>
    obtain rfl := Option.some.inj h
    exact hi
  | succ n ih =>
    obtain ⟨j, hj, hc⟩ := Option.bind_eq_some_iff.mp h
    obtain ⟨e, he, hje⟩ := owner?_eq_some_iff.mp hj
    exact ih (hk i hi e he j hje) hc

/-- A round adds the owners of the members. -/
theorem mem_addOwners (h : p.addOwners keep = some more) {c : Nat} :
    c ∈ more ↔ c ∈ keep ∨ ∃ i ∈ keep, p.owner? i = some c := by
  rw [mem_of_addOwners h, mem_ownersMissing]
  by_cases hc : c ∈ keep
  · simp [hc]
  · simp [hc]

/-- After some rounds the members are the ids that many levels, or less, above those at
the start. -/
theorem mem_of_steps {n : Nat} (h : p.ownerLoop.Steps n keep more) {c : Nat} :
    c ∈ more ↔ ∃ i ∈ keep, ∃ m ≤ n, p.ownerAbove m i = some c := by
  induction h with
  | refl keep =>
    simp only [Nat.le_zero, exists_eq_left, ownerAbove, Option.some.injEq, exists_eq_right]
  | @head n keep next more hstep _ ih =>
    rw [ih]
    constructor
    · rintro ⟨i, hi, m, hm, hc⟩
      rcases (mem_addOwners hstep).mp hi with hi | ⟨j, hj, hji⟩
      · exact ⟨i, hi, m, Nat.le_succ_of_le hm, hc⟩
      · exact ⟨j, hj, m + 1, Nat.succ_le_succ hm, Option.bind_eq_some_iff.mpr ⟨i, hji, hc⟩⟩
    · rintro ⟨i, hi, m, hm, hc⟩
      cases m with
      | zero => exact ⟨i, (mem_addOwners hstep).mpr (.inl hi), 0, Nat.zero_le _, hc⟩
      | succ m =>
        -- the first link is taken by this round, and the others by those after it
        obtain ⟨j, hj, hc⟩ := Option.bind_eq_some_iff.mp hc
        exact ⟨j, (mem_addOwners hstep).mpr (.inr ⟨i, hi, hj⟩), m, Nat.le_of_succ_le_succ hm, hc⟩

/-- What has all its owners is what lies any number of levels above the members. -/
theorem mem_withOwners {c : Nat} :
    c ∈ p.withOwners keep ↔ ∃ i ∈ keep, ∃ n, p.ownerAbove n i = some c := by
  constructor
  · intro hc
    obtain ⟨n, -, hsteps⟩ := p.ownerLoop.exists_steps_run keep
    obtain ⟨i, hi, m, -, hm⟩ := (mem_of_steps hsteps).mp hc
    exact ⟨i, hi, m, hm⟩
  · rintro ⟨i, hi, n, hn⟩
    obtain ⟨hkeep, hclosed⟩ := (p.isLeast_withOwners keep).1
    exact hclosed.mem_of_ownerAbove (hkeep i hi) hn

/-! ## The closure operator -/

/-- What makes a way to add ids the closure of a projection under owners. -/
structure IsOwnerClosure (p : Projection) (close : IdSet → IdSet) : Prop where
  /-- The result is the least set with the members and the owners of all its shown members. -/
  least : ∀ keep, IsLeast {k : Set Nat | (∀ i ∈ keep, i ∈ k) ∧ p.OwnerClosed k} {i | i ∈ close keep}
  idempotent : ∀ keep, close (close keep) = close keep
  monotone : ∀ keep more, (∀ i ∈ keep, i ∈ more) → ∀ i ∈ close keep, i ∈ close more
  union : ∀ keep more, close (keep ∪ more) = close keep ∪ close more
  empty : close ∅ = ∅

theorem isOwnerClosure_withOwners (p : Projection) : p.IsOwnerClosure p.withOwners where
  least := p.isLeast_withOwners
  idempotent keep := by
    refine IdSet.ext fun c => ⟨fun hc => ?_, fun hc => mem_withOwners.mpr ⟨c, hc, 0, rfl⟩⟩
    obtain ⟨i, hi, n, hn⟩ := mem_withOwners.mp hc
    obtain ⟨j, hj, m, hm⟩ := mem_withOwners.mp hi
    exact mem_withOwners.mpr ⟨j, hj, m + n, by rw [ownerAbove_add, hm, Option.bind_some, hn]⟩
  monotone keep more hsub c hc := by
    obtain ⟨i, hi, n, hn⟩ := mem_withOwners.mp hc
    exact mem_withOwners.mpr ⟨i, hsub i hi, n, hn⟩
  union keep more := by
    refine IdSet.ext fun c => ?_
    simp only [IdSet.mem_union, mem_withOwners, or_and_right, exists_or]
  empty := by
    refine IdSet.ext fun c => ?_
    simp only [mem_withOwners, IdSet.not_mem_empty, false_and, exists_false]

/-- **Adding owners is a closure operator.** No sequence of rounds goes on for ever, whatever the
links are. From any set, the rounds end after at most as many as owners are missing, at a set to
which none is to be added, and this set is the closure : the least one with the owners of its
shown members. -/
theorem withOwners_closes (p : Projection) :
    (WellFounded fun more keep => p.addOwners keep = some more) ∧
    (∀ keep, p.addOwners (p.withOwners keep) = none ∧
      ∃ n ≤ (keep.missing p.owners).length, p.ownerLoop.Steps n keep (p.withOwners keep)) ∧
    p.IsOwnerClosure p.withOwners :=
  ⟨p.ownerLoop.wellFounded_step,
    fun keep => ⟨p.ownerLoop.step_run keep, p.ownerLoop.exists_steps_run keep⟩,
    p.isOwnerClosure_withOwners⟩

end Projection

end CallAtlas
