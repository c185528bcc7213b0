import CallAtlas.Graph.Projection
import CallAtlas.Graph.Walk

/-!
# What a selection reaches

`forward p id` holds what `id` reaches by calls, and `backward p id` what reaches it : both are
walks. An id that is called need not be shown; nothing leads on from it. `withOwners p keep` adds
the owners of the members round by round until none is missing. `retained p s` is the selection with
all that it reaches or is reached from, and the owners of those.
-/

namespace CallAtlas

namespace Projection

/-! ## Calls -/

/-- What an id calls. -/
def successors (p : Projection) (id : Nat) : IdSet :=
  IdSet.ofList (((p.get? id).map (·.calls.flatten)).getD [])

/-- What calls an id. -/
def predecessors (p : Projection) (id : Nat) : IdSet :=
  IdSet.ofList ((p.toList.filter (·.2.calls.any (·.contains id))).map (·.1))

/-- The callees listed in all call sites. -/
def callees (p : Projection) : List Nat :=
  p.toList.flatMap (·.2.calls.flatten)

/-- The links from callers to callees. -/
def calleeLinks (p : Projection) : Links where
  next := p.successors
  targets := p.callees
  mem_targets {i j} h := by
    rw [successors, IdSet.mem_ofList] at h
    cases he : p.get? i with
    | none => simp [he] at h
    | some e =>
      rw [he] at h
      exact List.mem_flatMap.mpr ⟨(i, e), IdMap.mem_of_get? he, h⟩

/-- The links from callees to callers. -/
def callerLinks (p : Projection) : Links where
  next := p.predecessors
  targets := p.ids
  mem_targets h := by
    rw [predecessors, IdSet.mem_ofList] at h
    exact List.filter_sublist.map _ |>.mem h

/-- What an id reaches by one or more calls. -/
def forward (p : Projection) (id : Nat) : IdSet :=
  p.calleeLinks.walk id

/-- What reaches an id by one or more calls. -/
def backward (p : Projection) (id : Nat) : IdSet :=
  p.callerLinks.walk id

/-! ## Owners -/

/-- The owner of a shown entity. -/
def owner? (p : Projection) (id : Nat) : Option Nat :=
  (p.get? id).bind (·.owner)

/-- The owners of all shown entities. -/
def owners (p : Projection) : List Nat :=
  p.toList.filterMap (·.2.owner)

/-- The owners of members that are no members. -/
def ownersMissing (p : Projection) (keep : IdSet) : List Nat :=
  keep.missing (keep.toList.filterMap p.owner?)

/-- Add the missing owners, if there are some. -/
def addOwners (p : Projection) (keep : IdSet) : Option IdSet :=
  if (p.ownersMissing keep).isEmpty then none else some (keep.insertMany (p.ownersMissing keep))

theorem mem_owners_of_owner? {p : Projection} {i c : Nat} (h : p.owner? i = some c) :
    c ∈ p.owners := by
  obtain ⟨e, he, hc⟩ := Option.bind_eq_some_iff.mp h
  exact List.mem_filterMap.mpr ⟨(i, e), IdMap.mem_of_get? he, hc⟩

/-- With owners added, less owners are missing. -/
theorem missing_addOwners {p : Projection} {keep more : IdSet} (h : p.addOwners keep = some more) :
    (more.missing p.owners).length < (keep.missing p.owners).length := by
  rw [addOwners] at h
  split at h
  · cases h
  · rename_i hne
    obtain rfl := Option.some.inj h
    obtain ⟨c, hc⟩ := List.exists_mem_of_ne_nil _ (mt List.isEmpty_iff.mpr hne)
    obtain ⟨howner, hkeep⟩ := IdSet.mem_missing.mp hc
    obtain ⟨i, -, hi⟩ := List.mem_filterMap.mp howner
    exact IdSet.length_missing_lt (fun k hk => IdSet.mem_insertMany.mpr (.inr hk))
      (mem_owners_of_owner? hi)
      hkeep (IdSet.mem_insertMany.mpr (.inl hc))

/-- The rounds in which owners are added. -/
def ownerLoop (p : Projection) : Loop IdSet where
  step := p.addOwners
  rank keep := (keep.missing p.owners).length
  descends := missing_addOwners

/-- Add the owners of the members, and the owners of those. -/
def withOwners (p : Projection) (keep : IdSet) : IdSet :=
  p.ownerLoop.run keep

/-! ## Selections -/

/-- The selected ids and all that they reach or are reached from. -/
def reached (p : Projection) (selection : IdSet) : IdSet :=
  selection.toList.foldl (fun keep id => keep ∪ p.forward id ∪ p.backward id) selection

/-- What stays of a projection for a selection. -/
def retained (p : Projection) (selection : IdSet) : IdSet :=
  p.withOwners (p.reached selection)

/-- The projection around a selection. Kept entities keep all their calls. -/
def prune (p : Projection) (selection : IdSet) : Projection :=
  p.restrict (p.retained selection)

end Projection

end CallAtlas
