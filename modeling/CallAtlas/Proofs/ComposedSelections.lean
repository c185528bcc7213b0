import CallAtlas.Proofs.PrunedDrawings

/-!
# Selections compose

What is retained for a selection does not change when the projection is first cut down to a set that
goes with the selection (`Projection.retained_part`) : every path from or to a selected entity, and
every chain of owners that starts on one, stays within such a set. What is retained for a larger
selection is such a set, so pruning by a selection after pruning by a larger one is pruning by the
selection. For the union of two selections, the union of what is retained for each is retained
(`Projection.retained_union`).
-/

namespace CallAtlas

open Relation (TransGen)

namespace IdMap

variable {α : Type}

/-- Cutting down twice is cutting down once, if the second cut keeps no more than the first. -/
theorem restrict_restrict (m : IdMap α) {keep more : IdSet} (h : ∀ i ∈ keep, i ∈ more) :
    (m.restrict more).restrict keep = m.restrict keep := by
  refine eq_of_toList ?_
  simp only [restrict, filterIds, List.filter_filter]
  refine List.filter_congr fun x _ => ?_
  by_cases hx : x.1 ∈ keep
  · simp [hx, h x.1 hx]
  · simp [hx]

end IdMap

namespace Projection

variable {p : Projection} {s t : IdSet}

/-! ## Sets that go with a selection -/

theorem accompanies_retained (p : Projection) (s : IdSet) :
    p.Accompanies s {i | i ∈ p.retained s} :=
  (p.isLeast_retained s).1

/-- Every set that goes with a selection has what is retained for it. -/
theorem Accompanies.retained_subset {k : Set Nat} (h : p.Accompanies s k) :
    ∀ i ∈ p.retained s, i ∈ k :=
  (p.isLeast_retained s).2 h

theorem Accompanies.mono {k : Set Nat} (h : p.Accompanies t k) (hst : ∀ i ∈ s, i ∈ t) :
    p.Accompanies s k where
  selected i hi := h.selected i (hst i hi)
  callees i hi := h.callees i (hst i hi)
  callers i hi := h.callers i (hst i hi)
  owners := h.owners

/-- A larger selection retains more. -/
theorem retained_mono (p : Projection) (hst : ∀ i ∈ s, i ∈ t) :
    ∀ i ∈ p.retained s, i ∈ p.retained t :=
  ((p.accompanies_retained t).mono hst).retained_subset

/-- What goes with two selections, put together, goes with their union. -/
theorem Accompanies.union {k l : Set Nat} (hs : p.Accompanies s k) (ht : p.Accompanies t l) :
    p.Accompanies (s ∪ t) (k ∪ l) where
  selected i hi := by
    rcases IdSet.mem_union.mp hi with hi | hi
    · exact .inl (hs.selected i hi)
    · exact .inr (ht.selected i hi)
  callees i hi v hv := by
    rcases IdSet.mem_union.mp hi with hi | hi
    · exact .inl (hs.callees i hi v hv)
    · exact .inr (ht.callees i hi v hv)
  callers i hi v hv := by
    rcases IdSet.mem_union.mp hi with hi | hi
    · exact .inl (hs.callers i hi v hv)
    · exact .inr (ht.callers i hi v hv)
  owners := by
    rintro i (hi | hi) e he c hc
    · exact .inl (hs.owners i hi e he c hc)
    · exact .inr (ht.owners i hi e he c hc)

/-- What is retained for a union is what is retained for either part. -/
theorem retained_union (p : Projection) (s t : IdSet) :
    p.retained (s ∪ t) = p.retained s ∪ p.retained t := by
  refine IdSet.ext fun i => ⟨fun hi => ?_, fun hi => ?_⟩
  · have hboth := (p.accompanies_retained s).union (p.accompanies_retained t)
    exact IdSet.mem_union.mpr (hboth.retained_subset i hi)
  · rcases IdSet.mem_union.mp hi with hi | hi
    · exact p.retained_mono (fun j hj => IdSet.mem_union.mpr (.inl hj)) i hi
    · exact p.retained_mono (fun j hj => IdSet.mem_union.mpr (.inr hj)) i hi

/-! ## Cutting a projection down -/

section Part

variable {keep : IdSet}

/-- The calls that are left are those of the entities that are left. -/
theorem calls_part {u v : Nat} : (p.part keep).Calls u v ↔ u ∈ keep ∧ p.Calls u v := by
  unfold Calls
  rw [IdMap.get?_restrict]
  by_cases hu : u ∈ keep
  · simp [hu]
  · simp [hu]

theorem transGen_of_part {u v : Nat} (h : TransGen (p.part keep).Calls u v) :
    TransGen p.Calls u v := by
  have hsub : (p.part keep).Calls ≤ p.Calls := fun _ _ hcall => (calls_part.mp hcall).2
  exact TransGen.mono hsub u v h

/-- What goes with a selection has every path that starts at a selected entity. -/
theorem transGen_calls_part (h : p.Accompanies s {i | i ∈ keep}) {i v : Nat} (hi : i ∈ s) :
    TransGen (p.part keep).Calls i v ↔ TransGen p.Calls i v := by
  refine ⟨transGen_of_part, fun hv => ?_⟩
  induction hv with
  | single hcall => exact .single (calls_part.mpr ⟨h.selected i hi, hcall⟩)
  | tail hpath hcall ih => exact ih.tail (calls_part.mpr ⟨h.callees i hi _ hpath, hcall⟩)

/-- What goes with a selection has every path that ends at a selected entity. -/
theorem transGen_calls_part_to (h : p.Accompanies s {i | i ∈ keep}) {i v : Nat} (hi : i ∈ s) :
    TransGen (p.part keep).Calls v i ↔ TransGen p.Calls v i := by
  refine ⟨transGen_of_part, fun hv => ?_⟩
  induction hv using TransGen.head_induction_on with
  | single hcall => exact .single (calls_part.mpr ⟨h.callers i hi _ (.single hcall), hcall⟩)
  | head hcall hpath ih =>
    exact .head (calls_part.mpr ⟨h.callers i hi _ (.head hcall hpath), hcall⟩) ih

/-- What is retained for a selection is retained in every part of the projection that goes
with it. -/
theorem retained_part (h : p.Accompanies s {i | i ∈ keep}) :
    (p.part keep).retained s = p.retained s := by
  have hwhole := p.accompanies_retained s
  have hpart := (p.part keep).accompanies_retained s
  refine IdSet.ext fun i => ⟨?_, ?_⟩
  · -- what the whole projection retains goes with the selection in the part
    have hsub : (p.part keep).Accompanies s {i | i ∈ p.retained s} := by
      refine ⟨hwhole.selected, fun i hi v hv => ?_, fun i hi v hv => ?_, fun i hi e he c hc => ?_⟩
      · exact hwhole.callees i hi v ((transGen_calls_part h hi).mp hv)
      · exact hwhole.callers i hi v ((transGen_calls_part_to h hi).mp hv)
      · obtain ⟨he, -⟩ := IdMap.mem_restrict.mp (IdMap.mem_of_get? he)
        exact hwhole.owners i hi e (IdMap.get?_eq_some_iff.mpr he) c hc
    exact hsub.retained_subset i
  · -- what the part retains has no owner outside of it, so it goes with the selection in the whole
    have hsub : p.Accompanies s {i | i ∈ (p.part keep).retained s ∧ i ∈ keep} := by
      refine ⟨fun i hi => ?_, fun i hi v hv => ?_, fun i hi v hv => ?_, fun i hi e he c hc => ?_⟩
      · exact ⟨hpart.selected i hi, h.selected i hi⟩
      · exact ⟨hpart.callees i hi v ((transGen_calls_part h hi).mpr hv), h.callees i hi v hv⟩
      · exact ⟨hpart.callers i hi v ((transGen_calls_part_to h hi).mpr hv), h.callers i hi v hv⟩
      · have hleft : (p.part keep).get? i = some e := by
          rw [get?_part_of_mem hi.2, he]
        exact ⟨hpart.owners i hi.1 e hleft c hc, h.owners i hi.2 e he c hc⟩
    exact fun hi => (hsub.retained_subset i hi).1

/-- Pruning does not change when the projection is first cut down to a part that goes with
the selection. -/
theorem prune_part (h : p.Accompanies s {i | i ∈ keep}) : (p.part keep).prune s = p.prune s := by
  unfold prune
  rw [retained_part h, IdMap.restrict_restrict p h.retained_subset]

end Part

/-! ## Pruning twice -/

/-- **Selections compose.** For the union of selections, the union of what each retains is retained.
After pruning by a larger selection a selection retains what it retains in the whole projection, so
pruning by both is pruning by the smaller. A larger selection retains and leaves more, and pruning
again changes nothing. -/
theorem prune_composes (p : Projection) :
    (∀ s t : IdSet, p.retained (s ∪ t) = p.retained s ∪ p.retained t) ∧
    (∀ s t : IdSet, (∀ i ∈ s, i ∈ t) →
      (p.prune t).retained s = p.retained s ∧
      (p.prune t).prune s = p.prune s ∧
      (∀ i ∈ p.retained s, i ∈ p.retained t) ∧
      (p.prune s).toList.Sublist (p.prune t).toList) ∧
    ∀ s : IdSet, (p.prune s).prune s = p.prune s := by
  have hlarger : ∀ s t : IdSet, (∀ i ∈ s, i ∈ t) → p.Accompanies s {i | i ∈ p.retained t} :=
    fun s t hst => (p.accompanies_retained t).mono hst
  refine ⟨p.retained_union, fun s t hst => ?_, fun s => prune_part (hlarger s s fun _ hi => hi)⟩
  have hprune : (p.prune t).prune s = p.prune s := prune_part (hlarger s t hst)
  refine ⟨retained_part (hlarger s t hst), hprune, p.retained_mono hst, ?_⟩
  have hsub : ((p.prune t).prune s).toList.Sublist (p.prune t).toList := List.filter_sublist
  rwa [hprune] at hsub

/-- Calls that go round and lead to an id without an entity, owners that own each other, and an
entity apart. -/
def knot : Projection where
  toList := [
    (1, ⟨"go", "go", .method, "app", "app.A", some 4, [[2], [1, 9]]⟩),
    (2, ⟨"on", "on", .method, "app", "app.B", some 5, [[1]]⟩),
    (3, ⟨"main()", "main", .function, "app", "app", none, [[2, 6]]⟩),
    (4, ⟨"A:", "A", .classType, "app", "app.B", some 5, []⟩),
    (5, ⟨"B:", "B", .classType, "app", "app.A", some 4, []⟩),
    (6, ⟨"log()", "log", .function, "app", "app", none, []⟩),
    (7, ⟨"idle", "idle", .method, "app", "app.C", some 8, []⟩)]
  ascending := by decide

theorem prune_composes_knot :
    let s : IdSet := {1}
    let t : IdSet := ⟨[1, 7], by decide⟩
    (∀ i ∈ s, i ∈ t) ∧ knot.retained s = ⟨[1, 2, 3, 4, 5, 9], by decide⟩ ∧
      (knot.prune t).retained s = knot.retained s ∧ (knot.prune t).prune s = knot.prune s := by
  intro s t
  have hst : ∀ i ∈ s, i ∈ t := by decide
  obtain ⟨hretained, hprune, -⟩ := knot.prune_composes.2.1 s t hst
  exact ⟨hst, by decide +kernel, hretained, hprune⟩

end Projection

end CallAtlas
