import CallAtlas.Proofs.WrittenCalls

/-!
# The order of callers

Looking up a name does not read the calls, and the sites of a caller are numbered on their own. So
what resolving writes for a caller depends on that caller alone, and callers may be resolved in any
order : the counts are the same, the call graph is the same, and the tables differ only in how the
calls of different callers are mixed and numbered (`Catalog.SameCalls`,
`Catalog.resolve_any_order`). This holds also if the catalog has calls of these callers already,
under whatever keys.
-/

namespace CallAtlas

theorem ResolveStats.add_left_comm (a b c : ResolveStats) : a + (b + c) = b + (a + c) := by
  simp only [ResolveStats.add_eq, Nat.add_left_comm]

namespace Catalog

/-! ## Catalogs with the same calls -/

/-- A call without its number. -/
def content (r : CallRow) : Nat × String × Nat :=
  (r.caller, r.key, r.callee)

theorem map_id_callRows (n : Nat) (calls : List (Nat × String × Nat)) :
    (callRows n calls).map (·.id) = List.range' (n + 1) calls.length := by
  induction calls generalizing n with
  | nil => rfl
  | cons x calls ih => rw [callRows, List.map_cons, ih, List.length_cons, List.range'_succ]

theorem map_content_callRows (n : Nat) (calls : List (Nat × String × Nat)) :
    (callRows n calls).map content = calls := by
  induction calls generalizing n with
  | nil => rfl
  | cons x calls ih => rw [callRows, List.map_cons, ih, content]

/-- Catalogs with the same files and entities, and with the same calls but for the numbers of the
calls and the order of calls of different callers. -/
structure SameCalls (c c' : Catalog) : Prop where
  files : c.files = c'.files
  entities : c.entities = c'.entities
  /-- The same calls as often. -/
  contents : (c.calls.map content).Perm (c'.calls.map content)
  /-- The calls of one caller in the same order. -/
  order : ∀ u, CallRow.ofCaller u c.calls = CallRow.ofCaller u c'.calls
  /-- The same numbers in the table. -/
  numbers : c.calls.map (·.id) = c'.calls.map (·.id)

variable {σ : Type} (c : Catalog) (i : SourceReader σ) (o : ResolveOptions)
  {ds ds' : List (Discovered σ)}

/-! ## What each symbol brings -/

/-- The warning of a symbol whose body cannot be read. -/
def complaint (d : Discovered σ) : Option Warning :=
  match i.references d.symbol with
  | .ok _ => none
  | .error reason => some (unreadable d reason)

theorem warnings_addCallsOfAll (ds : List (Discovered σ)) :
    (addCallsOfAll i o c ds).2.2 = ds.filterMap (complaint i) := by
  induction ds generalizing c with
  | nil => rfl
  | cons d ds ih =>
    rw [addCallsOfAll, List.filterMap_cons, complaint]
    cases i.references d.symbol with
    | ok names => exact ih _
    | error reason => exact congrArg (_ :: ·) (ih c)

theorem stats_perm (hperm : ds.Perm ds') :
    (addCallsOfAll i o c ds).2.1 = (addCallsOfAll i o c ds').2.1 := by
  rw [stats_addCallsOfAll, stats_addCallsOfAll]
  exact (hperm.map (c.share i o)).foldr_eq' (fun a _ b _ s => ResolveStats.add_left_comm b a s) {}

theorem sameCalls_perm (hperm : ds.Perm ds') (hds : (ds.map (·.entityId)).Nodup) :
    (addCallsOfAll i o c ds).1.SameCalls (addCallsOfAll i o c ds').1 where
  files := by rw [addCallsOfAll_eq, addCallsOfAll_eq, withMoreCalls, withMoreCalls]
  entities := by rw [addCallsOfAll_eq, addCallsOfAll_eq, withMoreCalls, withMoreCalls]
  contents := by
    simp only [addCallsOfAll_eq, withMoreCalls, List.map_append, map_content_callRows]
    exact (hperm.flatMap_right _).append_left _
  order u := by
    have hds' : (ds'.map (·.entityId)).Nodup := (hperm.map _).nodup_iff.mp hds
    rw [ofCaller_addCallsOfAll c i o hds, ofCaller_addCallsOfAll c i o hds',
      find?_key_perm hds hperm]
  numbers := by
    simp only [addCallsOfAll_eq, withMoreCalls, List.map_append, map_id_callRows]
    rw [(hperm.flatMap_right _).length_eq]

/-- **Callers may be resolved in any order.** Distinct symbols are counted alike in every order, and
the call graph is the same. The tables differ only in the order of calls of different callers.
Earlier calls stay in front, and each symbol adds its own sites, numbered from zero, whoever is
resolved before it. -/
theorem resolve_any_order (hperm : ds.Perm ds') (hds : (ds.map (·.entityId)).Nodup) :
    (addCallsOfAll i o c ds).2.1 = (addCallsOfAll i o c ds').2.1 ∧
    (addCallsOfAll i o c ds).1.project = (addCallsOfAll i o c ds').1.project ∧
    (addCallsOfAll i o c ds).1.SameCalls (addCallsOfAll i o c ds').1 ∧
    c.calls <+: (addCallsOfAll i o c ds).1.calls ∧
    (∀ d ∈ ds, CallRow.ofCaller d.entityId (addCallsOfAll i o c ds).1.calls =
      CallRow.ofCaller d.entityId c.calls ++ CallGroup.sites d.entityId 0 (c.callsOf i o d)) ∧
    (addCallsOfAll i o c ds).2.2.Perm (addCallsOfAll i o c ds').2.2 := by
  have hsame := sameCalls_perm c i o hperm hds
  refine ⟨stats_perm c i o hperm, project_congr hsame.files hsame.entities hsame.order,
    hsame, ?_, ?_, ?_⟩
  · rw [addCallsOfAll_eq]
    exact List.prefix_append ..
  · intro d hd
    rw [ofCaller_addCallsOfAll c i o hds, find?_key_of_mem hds hd]
    rfl
  · rw [warnings_addCallsOfAll, warnings_addCallsOfAll]
    exact hperm.filterMap _

/-- Two entities named `run` and one named `main`, with calls that are there already, one of them
under the key of the first site of `main`. -/
def revisited : Catalog :=
  ofRows [⟨⟨"/src/a.rs", "a", 1⟩, 1⟩, ⟨⟨"/src/b.rs", "b", 2⟩, 2⟩]
    [⟨⟨1, "run", .function, "a", none⟩, 1⟩, ⟨⟨2, "run", .function, "b", none⟩, 2⟩,
      ⟨⟨1, "main", .function, "a", none⟩, 3⟩]
    [⟨1, 3, 1, "3.0"⟩, ⟨2, 2, 3, "old"⟩]

/-- The bodies of the three entities, one of them unreadable. -/
def revisits : List (Discovered (Option (List String))) :=
  [⟨1, 1, "run", some ["main"]⟩, ⟨2, 2, "run", none⟩, ⟨3, 1, "main", some ["run", "gone", "run"]⟩]

/-- A reader whose symbols are the names that a body mentions. -/
def mentions : SourceReader (Option (List String)) where
  declarations _ := .ok []
  references symbol := symbol.elim (.error "no body") .ok

/-- Resolved from the last to the first, the entities show the same calls, though the rows
stand otherwise. -/
theorem resolve_any_order_revisits :
    let forth := addCallsOfAll mentions {} revisited revisits
    let back := addCallsOfAll mentions {} revisited revisits.reverse
    revisits.Perm revisits.reverse ∧ (revisits.map (·.entityId)).Nodup ∧
    forth.2.1 = ⟨2, 1, 3, 5⟩ ∧ back.2.1 = ⟨2, 1, 3, 5⟩ ∧
    forth.1.project = back.1.project ∧ forth.1.SameCalls back.1 ∧ forth.1.calls ≠ back.1.calls ∧
    back.1.project.toList.map (fun x => (x.1, x.2.calls)) =
      [(1, [[3]]), (2, [[3]]), (3, [[1, 1, 2], [1, 2]])] := by
  intro forth back
  have hperm : revisits.Perm revisits.reverse := (List.reverse_perm _).symm
  have hids : (revisits.map (·.entityId)).Nodup := by decide
  obtain ⟨hstats, hproject, hsame, -⟩ := resolve_any_order revisited mentions {} hperm hids
  have hforth : forth.2.1 = ⟨2, 1, 3, 5⟩ := by decide
  exact ⟨hperm, hids, hforth, hstats ▸ hforth, hproject, hsame, by decide, by decide⟩

end Catalog

end CallAtlas
