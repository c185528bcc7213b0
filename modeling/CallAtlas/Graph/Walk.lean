import CallAtlas.Ids.Set

/-!
# Loops and walks

A `Loop` goes from state to state. Each step lowers the rank of the state, so `Loop.run` comes to a
state that has no step.

A walk follows `Links` from id to id. It takes the latest pending id and meets what that leads to :
an id that is met for the first time is marked as seen and becomes pending. The start is pending but
not seen, so `Links.walk` gives it only when the links lead back to it.
-/

namespace CallAtlas

/-! ## Loops -/

/-- Steps between states that lower a rank. -/
structure Loop (σ : Type) where
  /-- The state after a step, if there is a step. -/
  step : σ → Option σ
  rank : σ → Nat
  descends : ∀ {s t : σ}, step s = some t → rank t < rank s

namespace Loop

variable {σ : Type} (l : Loop σ)

/-- Take steps as long as there is one. -/
def run (s : σ) : σ :=
  match _ : l.step s with
  | none => s
  | some t => run t
termination_by l.rank s
decreasing_by exact l.descends ‹_›

/-- The last state has no step. -/
theorem step_run (s : σ) : l.step (l.run s) = none := by
  fun_induction run l s with
  | case1 s h => exact h
  | case2 s t h ih => exact ih

/-- What every step keeps holds for the last state. -/
theorem run_of_step {P : σ → Prop} (hstep : ∀ {s t}, l.step s = some t → P s → P t) {s : σ}
    (hs : P s) :
    P (l.run s) := by
  fun_induction run l s with
  | case1 s h => exact hs
  | case2 s t h ih => exact ih (hstep h hs)

end Loop

/-! ## Walks -/

/-- Links from ids to ids, with a list of all ids that they lead to. -/
structure Links where
  next : Nat → IdSet
  targets : List Nat
  mem_targets : ∀ {i j : Nat}, j ∈ next i → j ∈ targets

/-- A walk on the way : the pending ids, the latest first, and the ids that were met. -/
structure Walk where
  pending : List Nat
  seen : IdSet

namespace Walk

/-- Meet an id. One that is seen already stays as it is. -/
def meet (w : Walk) (i : Nat) : Walk :=
  if i ∈ w.seen then w else ⟨i :: w.pending, w.seen.insert i⟩

/-- Meet ids in order. -/
def meetAll (w : Walk) (ids : List Nat) : Walk :=
  ids.foldl meet w

/-- The ids of a list that are still to be met, and those that are pending. -/
def work (targets : List Nat) (w : Walk) : Nat :=
  (w.seen.missing targets).length + w.pending.length

/-- Meeting an id makes no work : one that becomes pending is no longer to be met. -/
theorem work_meet {targets : List Nat} (w : Walk) {i : Nat} (hi : i ∈ targets) :
    (w.meet i).work targets ≤ w.work targets := by
  rw [meet]
  split
  · exact Nat.le_refl _
  · rename_i hseen
    have := IdSet.length_missing_lt (fun k hk => IdSet.mem_insert.mpr (.inr hk)) hi hseen
      (IdSet.mem_insert.mpr (.inl rfl))
    simp only [work, List.length_cons]
    omega

theorem work_meetAll {targets : List Nat} {ids : List Nat} (hids : ∀ i ∈ ids, i ∈ targets)
    (w : Walk) : (w.meetAll ids).work targets ≤ w.work targets := by
  induction ids generalizing w with
  | nil => exact Nat.le_refl _
  | cons i ids ih =>
    obtain ⟨hi, hids⟩ := List.forall_mem_cons.mp hids
    exact Nat.le_trans (ih hids (w.meet i)) (w.work_meet hi)

end Walk

namespace Links

/-- Meet what the latest pending id leads to. -/
def step (l : Links) : Walk → Option Walk
  | ⟨[], _⟩ => none
  | ⟨i :: pending, seen⟩ => some (Walk.meetAll ⟨pending, seen⟩ (l.next i).toList)

theorem work_step {l : Links} {w w' : Walk} (h : l.step w = some w') :
    w'.work l.targets < w.work l.targets := by
  obtain ⟨_ | ⟨i, pending⟩, seen⟩ := w
  · cases h
  · obtain rfl := Option.some.inj h
    have hnext : ∀ j ∈ (l.next i).toList, j ∈ l.targets := fun j hj => l.mem_targets hj
    refine Nat.lt_of_le_of_lt (Walk.work_meetAll hnext ⟨pending, seen⟩) ?_
    simp [Walk.work]

/-- The steps of a walk. -/
def loop (l : Links) : Loop Walk where
  step := l.step
  rank := Walk.work l.targets
  descends := work_step

/-- What is met on a walk from an id until nothing is pending. -/
def walk (l : Links) (start : Nat) : IdSet :=
  (l.loop.run ⟨[start], ∅⟩).seen

end Links

end CallAtlas
