import Mathlib.Data.List.Induction
import Mathlib.Data.List.Nodup
import CallAtlas.Graph.Projection
import CallAtlas.Text.Decimal

/-!
# Calls in groups

`CallGroup.byKey` says what the call groups of a caller are, without a loop : the keys of its rows
in order of first appearance, and under each key the callees in row order. `Grouping.ofRows` makes
them in one pass for all callers at once (`Grouping.groupsOf_ofRows`); the invariant
`Grouping.Tracks` ties the number of a key to its place among the keys that have appeared.

Regrouping undoes numbering : sites that are written under distinct keys, each with at least one
callee, come back one group for each site (`CallGroup.byKey_sites`). The keys of two callers are
never the same (`caller_eq_of_siteKey_eq`).
-/

namespace CallAtlas

/-- The keys and callees of the calls of a caller, in row order. -/
def CallRow.ofCaller (u : Nat) (rows : List CallRow) : List (String × Nat) :=
  (rows.filter (·.caller == u)).map fun r => (r.key, r.callee)

theorem CallRow.ofCaller_append (u : Nat) (rows rows' : List CallRow) :
    ofCaller u (rows ++ rows') = ofCaller u rows ++ ofCaller u rows' := by
  rw [ofCaller, List.filter_append, List.map_append]
  rfl

theorem CallRow.ofCaller_concat_self (rows : List CallRow) (r : CallRow) :
    ofCaller r.caller (rows ++ [r]) = ofCaller r.caller rows ++ [(r.key, r.callee)] := by
  simp [ofCaller]

theorem CallRow.ofCaller_concat_of_ne {u : Nat} {r : CallRow} (h : u ≠ r.caller)
    (rows : List CallRow) :
    ofCaller u (rows ++ [r]) = ofCaller u rows := by
  simp [ofCaller, Ne.symm h]

namespace CallGroup

/-! ## Groups by key -/

/-- The keys in order of first appearance. -/
def keys (calls : List (String × Nat)) : List String :=
  (calls.map (·.1)).eraseDups

/-- The callees under a key. -/
def under (calls : List (String × Nat)) (k : String) : CallGroup :=
  (calls.filter (·.1 == k)).map (·.2)

/-- The groups of calls : one for each key. -/
def byKey (calls : List (String × Nat)) : List CallGroup :=
  (keys calls).map (under calls)

variable {calls : List (String × Nat)} {k : String} {v : Nat}

theorem keys_concat_of_mem (h : k ∈ keys calls) : keys (calls ++ [(k, v)]) = keys calls := by
  have hk : k ∈ calls.map (·.1) := List.mem_eraseDups.mp h
  simp [keys, List.eraseDups_append, List.removeAll, hk]

theorem keys_concat_of_notMem (h : k ∉ keys calls) :
    keys (calls ++ [(k, v)]) = keys calls ++ [k] := by
  have hk : k ∉ calls.map (·.1) := fun hk => h (List.mem_eraseDups.mpr hk)
  simp [keys, List.eraseDups_append, List.removeAll, hk, List.eraseDups_cons]

theorem getElem?_keys_concat (h : k ∉ keys calls) {n : Nat} {j : String} :
    (keys (calls ++ [(k, v)]))[n]? = some j ↔
      (keys calls)[n]? = some j ∨ (n = (keys calls).length ∧ j = k) := by
  rw [keys_concat_of_notMem h, List.getElem?_append]
  split
  · rename_i hn
    simp [Nat.ne_of_lt hn]
  · rename_i hn
    rw [List.getElem?_singleton, List.getElem?_eq_none (by omega)]
    split <;> simp [eq_comm] <;> omega

theorem nodup_keys (calls : List (String × Nat)) : (keys calls).Nodup := by
  induction calls using List.reverseRecOn with
  | nil => exact List.nodup_nil
  | append_singleton calls x ih =>
    by_cases h : x.1 ∈ keys calls
    · rwa [keys_concat_of_mem h]
    · rw [keys_concat_of_notMem h]
      refine List.nodup_append.mpr ⟨ih, List.nodup_singleton _, fun a ha b hb hab => h ?_⟩
      rwa [← List.mem_singleton.mp hb, ← hab]

theorem under_concat_self (calls : List (String × Nat)) (k : String) (v : Nat) :
    under (calls ++ [(k, v)]) k = under calls k ++ [v] := by
  simp [under]

theorem under_concat_of_ne {j : String} (h : j ≠ k) :
    under (calls ++ [(k, v)]) j = under calls j := by
  simp [under, Ne.symm h]

theorem under_eq_nil (h : k ∉ keys calls) : under calls k = [] := by
  rw [under, List.map_eq_nil_iff, List.filter_eq_nil_iff]
  intro x hx hk
  refine h (List.mem_eraseDups.mpr ?_)
  rw [← beq_iff_eq.mp hk]
  exact List.mem_map_of_mem hx

/-- A call under a known key goes to the group at the place of the key. -/
theorem byKey_concat_of_getElem? {n : Nat} (h : (keys calls)[n]? = some k) :
    byKey (calls ++ [(k, v)]) = (byKey calls).modify n (· ++ [v]) := by
  have hmem : k ∈ keys calls := List.mem_of_getElem? h
  rw [byKey, keys_concat_of_mem hmem]
  refine List.ext_getElem? fun i => ?_
  rw [List.getElem?_map, List.getElem?_modify, byKey, List.getElem?_map]
  cases hi : (keys calls)[i]? with
  | none => rfl
  | some j =>
    by_cases hn : n = i
    · subst hn
      obtain rfl : k = j := Option.some.inj (h.symm.trans hi)
      simp [under_concat_self]
    · have hj : j ≠ k := by
        rintro rfl
        obtain ⟨hni, hn'⟩ := List.getElem?_eq_some_iff.mp h
        obtain ⟨hii, hi'⟩ := List.getElem?_eq_some_iff.mp hi
        exact hn ((nodup_keys calls).getElem_inj_iff.mp (hn'.trans hi'.symm))
      simp [hn, under_concat_of_ne hj]

/-- A call under a new key begins a group. -/
theorem byKey_concat_of_notMem (h : k ∉ keys calls) :
    byKey (calls ++ [(k, v)]) = byKey calls ++ [[v]] := by
  rw [byKey, keys_concat_of_notMem h, List.map_append]
  congr 1
  · refine List.map_congr_left fun j hj => under_concat_of_ne ?_
    rintro rfl
    exact h hj
  · rw [List.map_singleton, under_concat_self, under_eq_nil h, List.nil_append]

end CallGroup

/-! ## One pass for all callers -/

namespace Grouping

theorem groupsOf_insert (g : Grouping) (u w : Nat) (groups : List CallGroup)
    (numbers : Index Nat (Index String Nat)) :
    groupsOf ⟨g.groups.insert w groups, numbers⟩ u = if u = w then groups else g.groupsOf u := by
  rw [groupsOf, Index.get?_insert]
  split <;> rfl

theorem numbersOf_insert (g : Grouping) (u w : Nat) (groups : Index Nat (List CallGroup))
    (numbers : Index String Nat) :
    numbersOf ⟨groups, g.numbers.insert w numbers⟩ u =
      if u = w then numbers else g.numbersOf u := by
  rw [numbersOf, Index.get?_insert]
  split <;> rfl

/-- The groups are those of the rows, and the number of a key is its place among the keys. -/
def Tracks (g : Grouping) (rows : List CallRow) : Prop :=
  ∀ u, g.groupsOf u = CallGroup.byKey (CallRow.ofCaller u rows) ∧
    ∀ k n, (g.numbersOf u).get? k = some n ↔ (CallGroup.keys (CallRow.ofCaller u rows))[n]? = some k

variable {g : Grouping} {rows : List CallRow}

theorem tracks_empty : Tracks {} [] := fun u =>
  ⟨rfl, fun k n => by simp [numbersOf, CallRow.ofCaller, CallGroup.keys]⟩

theorem Tracks.notMem_keys (h : g.Tracks rows) {r : CallRow}
    (hr : (g.numbersOf r.caller).get? r.key = none) :
    r.key ∉ CallGroup.keys (CallRow.ofCaller r.caller rows) := fun hmem => by
  obtain ⟨n, hn⟩ := List.mem_iff_getElem?.mp hmem
  have := ((h r.caller).2 r.key n).mpr hn
  simp [hr] at this

theorem Tracks.add_self (h : g.Tracks rows) (r : CallRow) :
    (g.add r).groupsOf r.caller = CallGroup.byKey (CallRow.ofCaller r.caller (rows ++ [r])) ∧
    ∀ k n, ((g.add r).numbersOf r.caller).get? k = some n ↔
      (CallGroup.keys (CallRow.ofCaller r.caller (rows ++ [r])))[n]? = some k := by
  obtain ⟨hgroups, hnumbers⟩ := h r.caller
  rw [CallRow.ofCaller_concat_self, add]
  cases hr : (g.numbersOf r.caller).get? r.key with
  | some m =>
    have hm := (hnumbers r.key m).mp hr
    rw [CallGroup.keys_concat_of_mem (List.mem_of_getElem? hm)]
    refine ⟨?_, hnumbers⟩
    rw [groupsOf_insert, if_pos rfl, hgroups, CallGroup.byKey_concat_of_getElem? hm]
  | none =>
    have hnew := h.notMem_keys hr
    have hlen : (g.groupsOf r.caller).length =
        (CallGroup.keys (CallRow.ofCaller r.caller rows)).length := by
      rw [hgroups, CallGroup.byKey, List.length_map]
    refine ⟨?_, fun k n => ?_⟩
    · rw [groupsOf_insert, if_pos rfl, hgroups, CallGroup.byKey_concat_of_notMem hnew]
    · rw [numbersOf_insert, if_pos rfl, Index.get?_insert,
        CallGroup.getElem?_keys_concat hnew, hlen]
      by_cases hk : k = r.key
      · have hnot : (CallGroup.keys (CallRow.ofCaller r.caller rows))[n]? ≠ some k := fun he =>
          hnew (hk ▸ List.mem_of_getElem? he)
        simp [hk, hk ▸ hnot, eq_comm]
      · simp [hk, hnumbers k n]

theorem Tracks.add_of_ne (h : g.Tracks rows) {r : CallRow} {u : Nat} (hu : u ≠ r.caller) :
    (g.add r).groupsOf u = CallGroup.byKey (CallRow.ofCaller u (rows ++ [r])) ∧
    ∀ k n, ((g.add r).numbersOf u).get? k = some n ↔
      (CallGroup.keys (CallRow.ofCaller u (rows ++ [r])))[n]? = some k := by
  obtain ⟨hgroups, hnumbers⟩ := h u
  rw [CallRow.ofCaller_concat_of_ne hu, add]
  cases (g.numbersOf r.caller).get? r.key with
  | some m => exact ⟨by rw [groupsOf_insert, if_neg hu, hgroups], hnumbers⟩
  | none =>
    refine ⟨by rw [groupsOf_insert, if_neg hu, hgroups], fun k n => ?_⟩
    rw [numbersOf_insert, if_neg hu]
    exact hnumbers k n

theorem Tracks.add (h : g.Tracks rows) (r : CallRow) : (g.add r).Tracks (rows ++ [r]) := fun u => by
  by_cases hu : u = r.caller
  · exact hu ▸ h.add_self r
  · exact h.add_of_ne hu

theorem tracks_ofRows (rows : List CallRow) : (ofRows rows).Tracks rows := by
  induction rows using List.reverseRecOn with
  | nil => exact tracks_empty
  | append_singleton rows r ih =>
    rw [ofRows, List.foldl_append]
    exact ih.add r

/-- The groups that one pass collects for a caller are those of its own calls. -/
theorem groupsOf_ofRows (rows : List CallRow) (u : Nat) :
    (ofRows rows).groupsOf u = CallGroup.byKey (CallRow.ofCaller u rows) :=
  (tracks_ofRows rows u).1

end Grouping

/-! ## Groups of numbered sites -/

theorem siteKey_inj {u m n : Nat} : siteKey u m = siteKey u n ↔ m = n := by
  rw [siteKey, siteKey, String.append_right_inj]
  exact Text.Decimal.toString_inj

/-- The digits at the start of a key are those of its caller. -/
theorem takeWhile_siteKey (u n : Nat) :
    (siteKey u n).toList.takeWhile (·.isDigit) = u.repr.toList := by
  have hkey : (siteKey u n).toList = u.repr.toList ++ '.' :: n.repr.toList := by
    simp [siteKey, Nat.toString_eq_repr]
  have hdigits : ∀ d ∈ u.repr.toList, d.isDigit = true := by
    intro d hd
    rw [Nat.toList_repr] at hd
    exact Nat.isDigit_of_mem_toDigits (by decide) (by decide) hd
  rw [hkey, List.takeWhile_append_of_pos hdigits, List.takeWhile_cons_of_neg (by decide),
    List.append_nil]

/-- A key belongs to one caller. -/
theorem caller_eq_of_siteKey_eq {u v m n : Nat} (h : siteKey u m = siteKey v n) : u = v := by
  have hdigits := takeWhile_siteKey u m
  rw [h, takeWhile_siteKey] at hdigits
  exact (Text.Decimal.toString_inj.mp (String.toList_inj.mp hdigits)).symm

namespace CallGroup

/-- The calls of sites that are numbered from `n` on. -/
def sites (u n : Nat) : List CallGroup → List (String × Nat)
  | [] => []
  | g :: gs => g.map (siteKey u n, ·) ++ sites u (n + 1) gs

/-- The key of a site is one of those from its number on. -/
theorem exists_of_mem_sites {u : Nat} {x : String × Nat} :
    {n : Nat} → {gs : List CallGroup} → x ∈ sites u n gs → ∃ m, n ≤ m ∧ x.1 = siteKey u m
  | n, g :: gs, h => by
    rcases List.mem_append.mp h with h | h
    · obtain ⟨v, -, rfl⟩ := List.mem_map.mp h
      exact ⟨n, Nat.le_refl n, rfl⟩
    · obtain ⟨m, hm, hx⟩ := exists_of_mem_sites h
      exact ⟨m, by omega, hx⟩

/-- The callee of a site is in one of the groups. -/
theorem exists_group_of_mem_sites {u : Nat} {x : String × Nat} :
    {n : Nat} → {gs : List CallGroup} → x ∈ sites u n gs → ∃ g ∈ gs, x.2 ∈ g
  | n, g :: gs, h => by
    rcases List.mem_append.mp h with h | h
    · obtain ⟨v, hv, rfl⟩ := List.mem_map.mp h
      exact ⟨g, List.mem_cons_self, hv⟩
    · obtain ⟨g', hg', hx⟩ := exists_group_of_mem_sites h
      exact ⟨g', List.mem_cons_of_mem _ hg', hx⟩

theorem length_sites (u : Nat) : (gs : List CallGroup) → (n : Nat) →
    (sites u n gs).length = gs.flatten.length
  | [], _ => rfl
  | g :: gs, n => by
    rw [sites, List.length_append, List.length_map, length_sites u gs, List.flatten_cons,
      List.length_append]

theorem siteKey_notMem_sites {u n m : Nat} (h : m < n) (gs : List CallGroup) :
    siteKey u m ∉ (sites u n gs).map (·.1) := fun hmem => by
  obtain ⟨x, hx, hk⟩ := List.mem_map.mp hmem
  obtain ⟨l, hl, hkl⟩ := exists_of_mem_sites hx
  have := siteKey_inj.mp (hk.symm.trans hkl)
  omega

theorem keys_replicate_append {k : String} {g : List Nat} {calls : List (String × Nat)}
    (hg : g ≠ []) (hk : k ∉ calls.map (·.1)) : keys (g.map (k, ·) ++ calls) = k :: keys calls := by
  obtain ⟨v, vs, rfl⟩ := List.exists_cons_of_ne_nil hg
  have hvs : ((vs.map (k, ·)).map (·.1)).filter (fun j => !j == k) = [] := by simp
  have hcalls : (calls.map (·.1)).filter (fun j => !j == k) = calls.map (·.1) := by
    refine List.filter_eq_self.mpr fun j hj => ?_
    have : j ≠ k := fun h => hk (h ▸ hj)
    simpa using this
  rw [keys, List.map_append, List.map_cons, List.map_cons, List.cons_append, List.eraseDups_cons,
    List.filter_append, hvs, hcalls]
  rfl

theorem under_replicate_append_self {k : String} (g : List Nat) {calls : List (String × Nat)}
    (hk : k ∉ calls.map (·.1)) : under (g.map (k, ·) ++ calls) k = g := by
  have hcalls : under calls k = [] := under_eq_nil fun h => hk (List.mem_eraseDups.mp h)
  have hown : under (g.map (k, ·)) k = g := by simp [under, List.filter_map, Function.comp_def]
  rw [under, List.filter_append, List.map_append]
  exact (congrArg₂ (· ++ ·) hown hcalls).trans (List.append_nil g)

theorem under_replicate_append_of_ne {k j : String} (h : j ≠ k) (g : List Nat)
    (calls : List (String × Nat)) : under (g.map (k, ·) ++ calls) j = under calls j := by
  have hown : (g.map (k, ·)).filter (·.1 == j) = [] := by
    simp [List.filter_map, Function.comp_def, h.symm]
  rw [under, List.filter_append, hown]
  rfl

/-- Under the key of a site stand its callees. -/
theorem under_sites {u : Nat} : (gs : List CallGroup) → (n k : Nat) →
    under (sites u n gs) (siteKey u (n + k)) = gs[k]?.getD []
  | [], _, _ => rfl
  | g :: gs, n, 0 => under_replicate_append_self g (siteKey_notMem_sites (Nat.lt_succ_self n) gs)
  | g :: gs, n, k + 1 => by
    have hne : siteKey u (n + (k + 1)) ≠ siteKey u n := fun h => by
      have := siteKey_inj.mp h
      omega
    have ih := under_sites (u := u) gs (n + 1) k
    rw [Nat.add_right_comm, Nat.add_assoc] at ih
    rw [sites, under_replicate_append_of_ne hne, ih]
    rfl

/-- Sites with at least one callee each come back as they were written. -/
theorem byKey_sites {u : Nat} : (gs : List CallGroup) → (n : Nat) → (∀ g ∈ gs, g ≠ []) →
    byKey (sites u n gs) = gs
  | [], _, _ => rfl
  | g :: gs, n, h => by
    have hk := siteKey_notMem_sites (u := u) (Nat.lt_succ_self n) gs
    have ih := byKey_sites (u := u) gs (n + 1) fun g' hg' => h g' (List.mem_cons_of_mem _ hg')
    rw [sites, byKey, keys_replicate_append (h g (List.mem_cons_self ..)) hk, List.map_cons,
      under_replicate_append_self g hk]
    refine congrArg (g :: ·) (Eq.trans ?_ ih)
    refine List.map_congr_left fun j hj => under_replicate_append_of_ne ?_ g _
    rintro rfl
    exact hk (List.mem_eraseDups.mp hj)

/-- Sites with at least one callee each have a key each. -/
theorem length_keys_sites {u n : Nat} {gs : List CallGroup} (h : ∀ g ∈ gs, g ≠ []) :
    (keys (sites u n gs)).length = gs.length := by
  have hlength := congrArg List.length (byKey_sites (u := u) gs n h)
  rwa [byKey, List.length_map] at hlength

end CallGroup

end CallAtlas
