import CallAtlas.Proofs.RegisteredRows
import CallAtlas.Proofs.ShownEntities

/-!
# What resolution writes

Resolving adds call rows and changes nothing else, so it is told by the calls that it adds :
`Catalog.withMoreCalls` numbers them on. The sites of a caller are the mentioned names that are
sites, each with its candidates (`Catalog.sitesOf`), and they are written in order under the keys of
the caller (`Catalog.addCallsOfAll_eq`). Since looking up a name does not read the calls, what one
caller writes does not matter to the next. What is written is what is counted
(`Catalog.tallies_addCallsOfAll`).
-/

namespace CallAtlas

theorem ResolveStats.add_eq (a b : ResolveStats) : a + b =
    ⟨a.callers + b.callers, a.skipped + b.skipped, a.sites + b.sites, a.rows + b.rows⟩ :=
  rfl

namespace Catalog

/-! ## More calls -/

/-- Rows of calls, numbered on from `n`. A call is given by its caller, its key and its callee. -/
def callRows (n : Nat) : List (Nat × String × Nat) → List CallRow
  | [] => []
  | (u, k, v) :: calls => ⟨n + 1, u, v, k⟩ :: callRows (n + 1) calls

theorem callRows_append (n : Nat) (calls calls' : List (Nat × String × Nat)) :
    callRows n (calls ++ calls') = callRows n calls ++ callRows (n + calls.length) calls' := by
  induction calls generalizing n with
  | nil => rfl
  | cons x calls ih =>
    rw [List.cons_append, callRows, callRows, ih, List.length_cons, List.cons_append,
      Nat.add_right_comm, Nat.add_assoc]

theorem length_callRows (n : Nat) (calls : List (Nat × String × Nat)) :
    (callRows n calls).length = calls.length := by
  induction calls generalizing n with
  | nil => rfl
  | cons x calls ih => rw [callRows, List.length_cons, ih, List.length_cons]

theorem map_key_callRows (n : Nat) (calls : List (Nat × String × Nat)) :
    (callRows n calls).map (·.key) = calls.map (·.2.1) := by
  induction calls generalizing n with
  | nil => rfl
  | cons x calls ih => rw [callRows, List.map_cons, ih, List.map_cons]

theorem mem_of_mem_callRows {n : Nat} {calls : List (Nat × String × Nat)} {r : CallRow}
    (h : r ∈ callRows n calls) : (r.caller, r.key, r.callee) ∈ calls := by
  induction calls generalizing n with
  | nil => cases h
  | cons x calls ih =>
    rcases List.mem_cons.mp h with rfl | h
    · exact List.mem_cons_self
    · exact List.mem_cons_of_mem _ (ih h)

/-- The calls of a caller among numbered rows. -/
theorem ofCaller_callRows (u n : Nat) (calls : List (Nat × String × Nat)) :
    CallRow.ofCaller u (callRows n calls) = (calls.filter (·.1 == u)).map (·.2) := by
  induction calls generalizing n with
  | nil => rfl
  | cons x calls ih =>
    have ih := ih (n + 1)
    simp only [CallRow.ofCaller] at ih
    by_cases hu : x.1 = u
    · simp [callRows, CallRow.ofCaller, hu, ih]
    · simp [callRows, CallRow.ofCaller, hu, ih]

theorem numbered_callRows {rows : List CallRow} (h : Numbered (·.id) rows)
    (calls : List (Nat × String × Nat)) : Numbered (·.id) (rows ++ callRows rows.length calls) := by
  induction calls generalizing rows with
  | nil => rwa [callRows, List.append_nil]
  | cons x calls ih =>
    have hx := ih (h.concat (r := ⟨rows.length + 1, x.1, x.2.2, x.2.1⟩) rfl)
    rw [List.length_append, List.length_singleton, List.append_assoc] at hx
    exact hx

/-- A catalog with more calls. -/
def withMoreCalls (c : Catalog) (calls : List (Nat × String × Nat)) : Catalog :=
  { c with calls := c.calls ++ callRows c.calls.length calls }

variable (c : Catalog)

theorem withMoreCalls_nil : c.withMoreCalls [] = c :=
  eq_of_tables rfl rfl (List.append_nil _)

theorem withMoreCalls_append (calls calls' : List (Nat × String × Nat)) :
    c.withMoreCalls (calls ++ calls') = (c.withMoreCalls calls).withMoreCalls calls' := by
  refine eq_of_tables rfl rfl ?_
  simp only [withMoreCalls, callRows_append, List.length_append, length_callRows, List.append_assoc]

theorem WellFormed.withMoreCalls {c : Catalog} (h : c.WellFormed)
    (calls : List (Nat × String × Nat)) : (c.withMoreCalls calls).WellFormed :=
  ⟨h.files, h.entities, numbered_callRows h.calls calls, h.paths, h.keys⟩

/-! ## The sites of a caller -/

/-- The sites among the names that a body of a file mentions, each with its candidates. -/
def sitesOf (o : ResolveOptions) (fileId : Nat) (names : List String) : List CallGroup :=
  (names.filter (c.isSite o)).map fun n => c.candidates n fileId o

/-- The sites of a discovered symbol. -/
def callsOf {σ : Type} (i : SourceReader σ) (o : ResolveOptions) (d : Discovered σ) :
    List CallGroup :=
  match i.references d.symbol with
  | .ok names => c.sitesOf o d.fileId names
  | .error _ => []

theorem addSite_eq (u : Nat) (key : String) (callees : List Nat) :
    c.addSite u key callees = c.withMoreCalls (callees.map (u, key, ·)) := by
  induction callees generalizing c with
  | nil => exact c.withMoreCalls_nil.symm
  | cons v callees ih =>
    rw [addSite, List.foldl_cons]
    exact (ih _).trans (c.withMoreCalls_append [(u, key, v)] _).symm

theorem resolveFrom_eq (u fileId : Nat) (o : ResolveOptions) (names : List String) (n : Nat) :
    (resolveFrom u fileId o n c names).1 =
      c.withMoreCalls ((CallGroup.sites u n (c.sitesOf o fileId names)).map (u, ·)) := by
  induction names generalizing c n with
  | nil => exact c.withMoreCalls_nil.symm
  | cons name names ih =>
    rw [resolveFrom]
    by_cases hsite : c.isSite o name
    · have hcons : c.sitesOf o fileId (name :: names) =
          c.candidates name fileId o :: c.sitesOf o fileId names := by
        simp [sitesOf, hsite]
      rw [if_pos hsite, hcons, CallGroup.sites, List.map_append, withMoreCalls_append, List.map_map]
      simp only [addSite_eq, ih]
      rfl
    · have hskip : c.sitesOf o fileId (name :: names) = c.sitesOf o fileId names := by
        simp [sitesOf, hsite]
      rw [if_neg hsite, hskip, ih]

/-- Resolving writes the sites of each symbol in turn. -/
theorem addCallsOfAll_eq {σ : Type} (i : SourceReader σ) (o : ResolveOptions)
    (ds : List (Discovered σ)) : (addCallsOfAll i o c ds).1 =
      c.withMoreCalls (ds.flatMap fun d =>
        (CallGroup.sites d.entityId 0 (c.callsOf i o d)).map (d.entityId, ·)) := by
  induction ds generalizing c with
  | nil => exact c.withMoreCalls_nil.symm
  | cons d ds ih =>
    rw [addCallsOfAll, List.flatMap_cons, withMoreCalls_append, callsOf]
    cases i.references d.symbol with
    | ok names =>
      simp only [addCallsOf, resolveFrom_eq, ih]
      rfl
    | error reason =>
      simp only [ih]
      rw [CallGroup.sites, List.map_nil, withMoreCalls_nil]

/-! ## Counting -/

theorem stats_resolveFrom (u fileId : Nat) (o : ResolveOptions) (names : List String) (n : Nat) :
    (resolveFrom u fileId o n c names).2 =
      { sites := (c.sitesOf o fileId names).length
        rows := (c.sitesOf o fileId names).flatten.length } := by
  induction names generalizing c n with
  | nil => rfl
  | cons name names ih =>
    rw [resolveFrom]
    by_cases hsite : c.isSite o name
    · have hcons : c.sitesOf o fileId (name :: names) =
          c.candidates name fileId o :: c.sitesOf o fileId names := by
        simp [sitesOf, hsite]
      have hrest : (c.addSite u (siteKey u n) (c.candidates name fileId o)).sitesOf o fileId names =
          c.sitesOf o fileId names := by
        rw [addSite_eq]
        rfl
      rw [if_pos hsite, hcons]
      simp only [ih, hrest, ResolveStats.add_eq, List.length_cons, List.flatten_cons,
        List.length_append]
      simp [Nat.add_comm]
    · have hskip : c.sitesOf o fileId (name :: names) = c.sitesOf o fileId names := by
        simp [sitesOf, hsite]
      rw [if_neg hsite, hskip, ih]

/-- What a symbol adds to the counts : itself, read or skipped, and its sites with
their candidates. -/
def share {σ : Type} (i : SourceReader σ) (o : ResolveOptions) (d : Discovered σ) :
    ResolveStats where
  callers := (i.references d.symbol).isOk.toNat
  skipped := (!(i.references d.symbol).isOk).toNat
  sites := (c.callsOf i o d).length
  rows := (c.callsOf i o d).flatten.length

/-- Resolving counts the share of each symbol. -/
theorem stats_addCallsOfAll {σ : Type} (i : SourceReader σ) (o : ResolveOptions)
    (ds : List (Discovered σ)) :
    (addCallsOfAll i o c ds).2.1 = (ds.map (c.share i o)).foldr (· + ·) {} := by
  induction ds generalizing c with
  | nil => rfl
  | cons d ds ih =>
    rw [addCallsOfAll, List.map_cons, List.foldr_cons]
    cases hd : i.references d.symbol with
    | ok names =>
      have hown : (c.addCallsOf d.entityId d.fileId names o).2 = c.share i o d := by
        simp [addCallsOf, stats_resolveFrom, ResolveStats.add_eq, share, callsOf, hd, Except.isOk,
          Except.toBool]
      have hrest : (addCallsOfAll i o (c.addCallsOf d.entityId d.fileId names o).1 ds).2.1 =
          (ds.map (c.share i o)).foldr (· + ·) {} := by
        rw [ih]
        simp only [addCallsOf, resolveFrom_eq]
        rfl
      exact congrArg₂ (· + ·) hown hrest
    | error reason =>
      have hown : ({ skipped := 1 } : ResolveStats) = c.share i o d := by
        simp [share, callsOf, hd, Except.isOk, Except.toBool]
      exact congrArg₂ (· + ·) hown (ih c)

/-- What resolving symbols should count. -/
structure Tallies {σ : Type} (i : SourceReader σ) (o : ResolveOptions) (ds : List (Discovered σ))
    (stats : ResolveStats) : Prop where
  symbols : stats.callers + stats.skipped = ds.length
  sites : stats.sites = (ds.flatMap (c.callsOf i o)).length
  rows : stats.rows = (ds.flatMap (c.callsOf i o)).flatten.length

variable {c} in
theorem Tallies.cons {σ : Type} {i : SourceReader σ} {o : ResolveOptions} {ds : List (Discovered σ)}
    {rest : ResolveStats} (h : c.Tallies i o ds rest) (d : Discovered σ) :
    c.Tallies i o (d :: ds) (c.share i o d + rest) where
  symbols := by
    have hrest := h.symbols
    simp only [ResolveStats.add_eq, share, List.length_cons]
    cases (i.references d.symbol).isOk <;> simp <;> omega
  sites := by
    rw [ResolveStats.add_eq, List.flatMap_cons, List.length_append, ← h.sites, share]
  rows := by
    rw [ResolveStats.add_eq, List.flatMap_cons, List.flatten_append, List.length_append,
      ← h.rows, share]

/-- Resolving counts each symbol once, with its sites and their candidates. -/
theorem tallies_addCallsOfAll {σ : Type} (i : SourceReader σ) (o : ResolveOptions)
    (ds : List (Discovered σ)) : c.Tallies i o ds (addCallsOfAll i o c ds).2.1 := by
  rw [stats_addCallsOfAll]
  induction ds with
  | nil => exact ⟨rfl, rfl, rfl⟩
  | cons d ds ih => exact ih.cons d

/-! ## Candidates -/

/-- Candidates carry the name. -/
theorem candidates_subset (name : String) (fileId : Nat) (o : ResolveOptions) :
    c.candidates name fileId o ⊆ c.idsNamed name := by
  have hprefer : c.preferFile fileId (c.idsNamed name) ⊆ c.idsNamed name := by
    rw [preferFile]
    split
    · exact List.Subset.refl _
    · exact List.filter_subset_self _
  have hchosen :
      (if o.matchToFile then c.preferFile fileId (c.idsNamed name) else c.idsNamed name) ⊆
      c.idsNamed name := by
    split
    · exact hprefer
    · exact List.Subset.refl _
  rw [candidates]
  cases o.maxCandidates with
  | none => exact hchosen
  | some l => exact fun v hv => hchosen (List.mem_of_mem_take hv)

/-- What a symbol calls has a row. -/
theorem exists_row_of_mem_callsOf {σ : Type} {i : SourceReader σ} {o : ResolveOptions}
    {d : Discovered σ} {g : CallGroup} {v : Nat} (hg : g ∈ c.callsOf i o d) (hv : v ∈ g) :
    ∃ e ∈ c.entities, e.id = v := by
  rw [callsOf] at hg
  cases hr : i.references d.symbol with
  | error reason => simp [hr] at hg
  | ok names =>
    simp only [hr, sitesOf, List.mem_map] at hg
    obtain ⟨n, -, rfl⟩ := hg
    have hid := c.candidates_subset n d.fileId o hv
    rw [idsNamed_eq] at hid
    obtain ⟨e, he, rfl⟩ := List.mem_map.mp hid
    exact ⟨e, List.mem_of_mem_filter he, rfl⟩

theorem idsNamed_ne_nil {name : String} (h : c.hasName name) : c.idsNamed name ≠ [] := by
  obtain ⟨e, he, hn⟩ := (c.hasName_iff name).mp h
  rw [idsNamed_eq]
  exact List.ne_nil_of_mem (List.mem_map_of_mem (List.mem_filter.mpr ⟨he, by simpa using hn⟩))

theorem preferFile_ne_nil (fileId : Nat) {ids : List Nat} (h : ids ≠ []) :
    c.preferFile fileId ids ≠ [] := by
  rw [preferFile]
  split
  · exact h
  · rename_i hown
    simpa using hown

theorem upTo_ne_nil (limit : Option Limit) {ids : List Nat} (h : ids ≠ []) :
    upTo limit ids ≠ [] := by
  cases limit with
  | none => exact h
  | some l =>
    rw [upTo, ne_eq, List.take_eq_nil_iff]
    have := l.positive
    rintro (h0 | h0)
    · omega
    · exact h h0

/-- A site has at least one candidate. -/
theorem candidates_ne_nil {o : ResolveOptions} {name : String} (h : c.isSite o name)
    (fileId : Nat) :
    c.candidates name fileId o ≠ [] := by
  have hname : c.hasName name := (Bool.and_eq_true_iff.mp h).1
  have hids := c.idsNamed_ne_nil hname
  refine upTo_ne_nil o.maxCandidates ?_
  split
  · exact c.preferFile_ne_nil fileId hids
  · exact hids

theorem ne_nil_of_mem_callsOf {σ : Type} {i : SourceReader σ} {o : ResolveOptions}
    {d : Discovered σ} {g : CallGroup} (h : g ∈ c.callsOf i o d) : g ≠ [] := by
  rw [callsOf] at h
  cases hr : i.references d.symbol with
  | error reason => simp [hr] at h
  | ok names =>
    simp only [hr, sitesOf, List.mem_map, List.mem_filter] at h
    obtain ⟨n, ⟨-, hn⟩, rfl⟩ := h
    exact c.candidates_ne_nil hn d.fileId

/-! ## Reading the calls back -/

/-- Resolving distinct symbols adds to the calls of a caller the sites of its symbol, and nothing
for an id without a symbol. -/
theorem ofCaller_addCallsOfAll {σ : Type} (i : SourceReader σ) (o : ResolveOptions)
    {ds : List (Discovered σ)} (hds : (ds.map (·.entityId)).Nodup) (u : Nat) :
    CallRow.ofCaller u (addCallsOfAll i o c ds).1.calls = CallRow.ofCaller u c.calls ++
      (ds.find? (·.entityId == u)).elim [] fun d => CallGroup.sites u 0 (c.callsOf i o d) := by
  have hown : ∀ d : Discovered σ,
      ((CallGroup.sites d.entityId 0 (c.callsOf i o d)).map (d.entityId, ·)).filter (·.1 == u) =
        if d.entityId = u then (CallGroup.sites d.entityId 0 (c.callsOf i o d)).map (d.entityId, ·)
        else [] := fun d => by
    by_cases hd : d.entityId = u
    · simp [hd, List.filter_map, Function.comp_def]
    · simp [hd, List.filter_map, Function.comp_def]
  rw [addCallsOfAll_eq, withMoreCalls, CallRow.ofCaller_append, ofCaller_callRows,
    filter_flatMap_id hown hds]
  cases hfind : ds.find? (·.entityId == u) with
  | none => rfl
  | some d =>
    have hd : d.entityId = u := by simpa using List.find?_some hfind
    simp [hd, Function.comp_def]

end Catalog

end CallAtlas
