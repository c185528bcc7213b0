import Mathlib.Logic.Relation
import Mathlib.Order.Bounds.Basic
import CallAtlas.Graph.Reach

/-!
# Reachability is exact

A walk finds exactly what its links lead to in one or more steps (`Links.mem_walk`) : what it has
seen is led to, and what it has looked at leads to nothing unseen (`Links.Explores`), from the first
step to the last. The links of a projection are its calls, forwards and backwards. Adding owners
gives the least set that is closed under owners (`Projection.isLeast_withOwners`). Together they say
what stays of a projection for a selection.
-/

namespace CallAtlas

open Relation (TransGen)

/-- No run of a loop goes on for ever. -/
theorem Loop.wellFounded_step {σ : Type} (l : Loop σ) : WellFounded fun t s => l.step s = some t :=
  Subrelation.wf (fun h => l.descends h) (measure l.rank).wf

/-! ## Walks -/

namespace Walk

variable {w : Walk} {ids : List Nat} {v : Nat}

theorem mem_seen_meet {i : Nat} : v ∈ (w.meet i).seen ↔ v = i ∨ v ∈ w.seen := by
  rw [meet]
  split
  · rename_i hi
    exact ⟨.inr, by rintro (rfl | h) <;> assumption⟩
  · exact IdSet.mem_insert

theorem mem_pending_meet {i : Nat} :
    v ∈ (w.meet i).pending ↔ (v = i ∧ i ∉ w.seen) ∨ v ∈ w.pending := by
  rw [meet]
  split
  · rename_i hi
    simp [hi]
  · rename_i hi
    simp [hi]

/-- All ids that are met are seen. -/
theorem mem_seen_meetAll : v ∈ (w.meetAll ids).seen ↔ v ∈ ids ∨ v ∈ w.seen := by
  induction ids generalizing w with
  | nil => simp [meetAll]
  | cons i ids ih =>
    have hcons : w.meetAll (i :: ids) = (w.meet i).meetAll ids := rfl
    rw [hcons, ih, mem_seen_meet, List.mem_cons]
    exact or_left_comm.trans or_assoc.symm

/-- The ids that are met for the first time become pending. -/
theorem mem_pending_meetAll :
    v ∈ (w.meetAll ids).pending ↔ (v ∈ ids ∧ v ∉ w.seen) ∨ v ∈ w.pending := by
  induction ids generalizing w with
  | nil => simp [meetAll]
  | cons i ids ih =>
    have hcons : w.meetAll (i :: ids) = (w.meet i).meetAll ids := rfl
    rw [hcons, ih, mem_pending_meet, mem_seen_meet, List.mem_cons]
    by_cases hv : v = i
    · subst hv
      simp
    · simp [hv]

end Walk

namespace Links

variable {l : Links} {start : Nat}

/-- A link leads from `u` to `v`. -/
def Leads (l : Links) (u v : Nat) : Prop :=
  v ∈ l.next u

/-- The state of a walk from `start`. -/
structure Explores (l : Links) (start : Nat) (w : Walk) : Prop where
  sound : ∀ v ∈ w.seen, TransGen l.Leads start v
  known : ∀ v ∈ w.pending, v = start ∨ v ∈ w.seen
  /-- What is no longer pending leads to nothing unseen. -/
  settled : ∀ u, u = start ∨ u ∈ w.seen → u ∉ w.pending → ∀ v, l.Leads u v → v ∈ w.seen

theorem explores_start (l : Links) (start : Nat) : l.Explores start ⟨[start], ∅⟩ where
  sound v hv := absurd hv IdSet.not_mem_empty
  known v hv := .inl (List.mem_singleton.mp hv)
  settled u hu hpending := by
    rcases hu with rfl | hu
    · exact absurd (List.mem_singleton_self u) hpending
    · exact absurd hu IdSet.not_mem_empty

theorem Explores.step {w w' : Walk} (h : l.step w = some w') (hw : l.Explores start w) :
    l.Explores start w' := by
  obtain ⟨_ | ⟨i, pending⟩, seen⟩ := w
  · cases h
  obtain rfl := Option.some.inj h
  have hi : i = start ∨ i ∈ seen := hw.known i (List.mem_cons_self ..)
  refine ⟨fun v hv => ?_, fun v hv => ?_, fun u hu hpending v huv => ?_⟩
  · rcases Walk.mem_seen_meetAll.mp hv with hv | hv
    · rcases hi with rfl | hi
      · exact .single hv
      · exact .tail (hw.sound i hi) hv
    · exact hw.sound v hv
  · rcases Walk.mem_pending_meetAll.mp hv with ⟨hv, -⟩ | hv
    · exact .inr (Walk.mem_seen_meetAll.mpr (.inl hv))
    · exact (hw.known v (List.mem_cons_of_mem i hv)).imp_right fun hv =>
        Walk.mem_seen_meetAll.mpr (.inr hv)
  · rw [Walk.mem_pending_meetAll, not_or, not_and_not_right] at hpending
    rw [Walk.mem_seen_meetAll]
    by_cases hui : u = i
    · exact .inl (hui ▸ huv)
    -- any other `u` was settled before this step
    have hknown : u = start ∨ u ∈ seen := by
      rcases hu with hu | hu
      · exact .inl hu
      · exact .inr ((Walk.mem_seen_meetAll.mp hu).elim hpending.1 id)
    refine .inr (hw.settled u hknown (fun hmem => ?_) v huv)
    rcases List.mem_cons.mp hmem with hmem | hmem
    · exact hui hmem
    · exact hpending.2 hmem

/-- A walk meets exactly what the links lead to in one or more steps. -/
theorem mem_walk (l : Links) (start v : Nat) : v ∈ l.walk start ↔ TransGen l.Leads start v := by
  have hend : l.Explores start (l.loop.run ⟨[start], ∅⟩) :=
    l.loop.run_of_step Explores.step (explores_start l start)
  have hpending : (l.loop.run ⟨[start], ∅⟩).pending = [] := by
    have hlast : l.step (l.loop.run ⟨[start], ∅⟩) = none := l.loop.step_run _
    rcases hw : l.loop.run ⟨[start], ∅⟩ with ⟨_ | ⟨i, pending⟩, seen⟩
    · rfl
    · rw [hw] at hlast
      cases hlast
  have hsettled : ∀ u, u = start ∨ u ∈ l.walk start → ∀ v, l.Leads u v → v ∈ l.walk start :=
    fun u hu => hend.settled u hu (by simp [hpending])
  refine ⟨hend.sound v, fun hv => ?_⟩
  induction hv with
  | single hv => exact hsettled start (.inl rfl) _ hv
  | tail _ huv ih => exact hsettled _ (.inr ih) _ huv

end Links

namespace Projection

variable {p : Projection}

/-! ## Calls -/

/-- A call site of the shown entity `u` lists `v`. -/
def Calls (p : Projection) (u v : Nat) : Prop :=
  ∃ e, p.get? u = some e ∧ ∃ g ∈ e.calls, v ∈ g

theorem mem_successors {u v : Nat} : v ∈ p.successors u ↔ p.Calls u v := by
  rw [successors, IdSet.mem_ofList, Calls]
  cases p.get? u <;> simp

theorem mem_predecessors {u v : Nat} : v ∈ p.predecessors u ↔ p.Calls v u := by
  simp only [predecessors, IdSet.mem_ofList, List.mem_map, List.mem_filter, List.any_eq_true,
    List.contains_iff_mem, Calls, IdMap.get?_eq_some_iff]
  constructor
  · rintro ⟨⟨i, e⟩, ⟨hmem, hcall⟩, rfl⟩
    exact ⟨e, hmem, hcall⟩
  · rintro ⟨e, hmem, hcall⟩
    exact ⟨(v, e), ⟨hmem, hcall⟩, rfl⟩

theorem mem_forward {u v : Nat} : v ∈ p.forward u ↔ TransGen p.Calls u v := by
  have hlinks : p.calleeLinks.Leads = p.Calls := funext₂ fun _ _ => propext mem_successors
  rw [forward, Links.mem_walk, hlinks]

theorem mem_backward {u v : Nat} : v ∈ p.backward u ↔ TransGen p.Calls v u := by
  have hlinks : p.callerLinks.Leads = Function.swap p.Calls :=
    funext₂ fun _ _ => propext mem_predecessors
  rw [backward, Links.mem_walk, hlinks, Relation.transGen_swap]

/-! ## Owners -/

/-- The set has the owners of its shown members. -/
def OwnerClosed (p : Projection) (k : Set Nat) : Prop :=
  ∀ i ∈ k, ∀ e, p.get? i = some e → ∀ c, e.owner = some c → c ∈ k

theorem owner?_eq_some_iff {i c : Nat} :
    p.owner? i = some c ↔ ∃ e, p.get? i = some e ∧ e.owner = some c :=
  Option.bind_eq_some_iff

/-- The missing owners are the owners of members that are no members. -/
theorem mem_ownersMissing {keep : IdSet} {c : Nat} :
    c ∈ p.ownersMissing keep ↔ (∃ i ∈ keep, p.owner? i = some c) ∧ c ∉ keep := by
  rw [ownersMissing, IdSet.mem_missing, List.mem_filterMap]
  rfl

theorem mem_of_addOwners {keep more : IdSet} (h : p.addOwners keep = some more) {c : Nat} :
    c ∈ more ↔ c ∈ p.ownersMissing keep ∨ c ∈ keep := by
  rw [addOwners] at h
  split at h
  · cases h
  · obtain rfl := Option.some.inj h
    exact IdSet.mem_insertMany

/-- A set has its owners if none is missing. -/
theorem ownerClosed_iff {keep : IdSet} :
    p.OwnerClosed {i | i ∈ keep} ↔ p.ownersMissing keep = [] := by
  rw [List.eq_nil_iff_forall_not_mem]
  constructor
  · intro hclosed c hc
    obtain ⟨⟨i, hi, howner⟩, hkeep⟩ := mem_ownersMissing.mp hc
    obtain ⟨e, he, hec⟩ := owner?_eq_some_iff.mp howner
    exact hkeep (hclosed i hi e he c hec)
  · intro hmissing i hi e he c hc
    by_contra hkeep
    exact hmissing c (mem_ownersMissing.mpr ⟨⟨i, hi, owner?_eq_some_iff.mpr ⟨e, he, hc⟩⟩, hkeep⟩)

instance (keep : IdSet) : Decidable (p.OwnerClosed {i | i ∈ keep}) :=
  decidable_of_iff _ ownerClosed_iff.symm

/-- No owners are added to a set only if it has them all. -/
theorem ownerClosed_of_addOwners {keep : IdSet} (h : p.addOwners keep = none) :
    p.OwnerClosed {i | i ∈ keep} := by
  rw [addOwners] at h
  split at h
  · rename_i hnone
    exact ownerClosed_iff.mpr (List.isEmpty_iff.mp hnone)
  · cases h

/-- Adding owners gives the least set that has the members and is closed under owners. -/
theorem isLeast_withOwners (p : Projection) (keep : IdSet) :
    IsLeast {k : Set Nat | (∀ i ∈ keep, i ∈ k) ∧ p.OwnerClosed k} {i | i ∈ p.withOwners keep} := by
  refine ⟨⟨?_, ownerClosed_of_addOwners (p.ownerLoop.step_run keep)⟩, ?_⟩
  · -- no round removes anything
    refine p.ownerLoop.run_of_step (P := fun t => ∀ i ∈ keep, i ∈ t) (fun h ht i hi => ?_)
      fun _ hi => hi
    exact (mem_of_addOwners h).mpr (.inr (ht i hi))
  · -- no round adds anything that a closed set could do without
    rintro k ⟨hkeep, hclosed⟩
    refine p.ownerLoop.run_of_step (P := fun t => ∀ i ∈ t, i ∈ k) (fun h ht c hc => ?_) hkeep
    rcases (mem_of_addOwners h).mp hc with hc | hc
    · obtain ⟨⟨i, hi, howner⟩, -⟩ := mem_ownersMissing.mp hc
      obtain ⟨e, he, hec⟩ := owner?_eq_some_iff.mp howner
      exact hclosed i (ht i hi) e he c hec
    · exact ht c hc

/-! ## Selections -/

theorem mem_reached {s : IdSet} {v : Nat} :
    v ∈ p.reached s ↔ v ∈ s ∨ ∃ i ∈ s, v ∈ p.forward i ∨ v ∈ p.backward i := by
  have hfold : ∀ (ids : List Nat) (keep : IdSet),
      v ∈ ids.foldl (fun keep id => keep ∪ p.forward id ∪ p.backward id) keep ↔
        v ∈ keep ∨ ∃ i ∈ ids, v ∈ p.forward i ∨ v ∈ p.backward i := by
    intro ids
    induction ids with
    | nil => simp
    | cons i ids ih =>
      intro keep
      rw [List.foldl_cons, ih, IdSet.mem_union, IdSet.mem_union]
      simp only [List.mem_cons, exists_eq_or_imp, or_assoc]
  exact hfold s.toList s

/-- What a set must have to go with a selection : the selection, all that it reaches and is reached
from, and the owners of shown members. -/
structure Accompanies (p : Projection) (s : IdSet) (k : Set Nat) : Prop where
  selected : ∀ i ∈ s, i ∈ k
  callees : ∀ i ∈ s, ∀ v, TransGen p.Calls i v → v ∈ k
  callers : ∀ i ∈ s, ∀ v, TransGen p.Calls v i → v ∈ k
  owners : p.OwnerClosed k

theorem accompanies_iff {s : IdSet} {k : Set Nat} :
    p.Accompanies s k ↔ (∀ i ∈ p.reached s, i ∈ k) ∧ p.OwnerClosed k := by
  constructor
  · rintro ⟨hselected, hcallees, hcallers, howners⟩
    refine ⟨fun v hv => ?_, howners⟩
    rcases mem_reached.mp hv with hv | ⟨i, hi, hv | hv⟩
    · exact hselected v hv
    · exact hcallees i hi v (mem_forward.mp hv)
    · exact hcallers i hi v (mem_backward.mp hv)
  · rintro ⟨hreached, howners⟩
    refine ⟨fun i hi => ?_, fun i hi v hv => ?_, fun i hi v hv => ?_, howners⟩
    · exact hreached i (mem_reached.mpr (.inl hi))
    · exact hreached v (mem_reached.mpr (.inr ⟨i, hi, .inl (mem_forward.mpr hv)⟩))
    · exact hreached v (mem_reached.mpr (.inr ⟨i, hi, .inr (mem_backward.mpr hv)⟩))

/-- What is retained is the least set that goes with the selection. -/
theorem isLeast_retained (p : Projection) (s : IdSet) :
    IsLeast {k | p.Accompanies s k} {i | i ∈ p.retained s} := by
  have hsets : {k | p.Accompanies s k} =
      {k : Set Nat | (∀ i ∈ p.reached s, i ∈ k) ∧ p.OwnerClosed k} :=
    Set.ext fun k => accompanies_iff
  rw [hsets]
  exact p.isLeast_withOwners (p.reached s)

/-- **Pruning is exact.** The loops behind it end from every state. Forwards they find what is
reached by one or more calls, backwards what reaches, so each is the other read from the far end.
What is retained for a selection is the least set that goes with it, and pruning keeps the retained
entities as they are, in their order, and no others. -/
theorem prune_exact (p : Projection) (s : IdSet) :
    ((WellFounded fun w' w => p.calleeLinks.step w = some w') ∧
      (WellFounded fun w' w => p.callerLinks.step w = some w') ∧
      WellFounded fun more keep => p.addOwners keep = some more) ∧
    (∀ u v, v ∈ p.forward u ↔ TransGen p.Calls u v) ∧
    (∀ u v, v ∈ p.backward u ↔ TransGen p.Calls v u) ∧
    (∀ u v, v ∈ p.forward u ↔ u ∈ p.backward v) ∧
    IsLeast {k | p.Accompanies s k} {i | i ∈ p.retained s} ∧
    (p.prune s).toList = p.toList.filter (·.1 ∈ p.retained s) ∧
    ∀ i, (p.prune s).get? i = if i ∈ p.retained s then p.get? i else none := by
  refine ⟨⟨?_, ?_, ?_⟩, fun _ _ => mem_forward, fun _ _ => mem_backward, fun _ _ => ?_,
    p.isLeast_retained s, rfl, p.get?_restrict _⟩
  · exact p.calleeLinks.loop.wellFounded_step
  · exact p.callerLinks.loop.wellFounded_step
  · exact p.ownerLoop.wellFounded_step
  · rw [mem_forward, mem_backward]

end Projection

end CallAtlas
