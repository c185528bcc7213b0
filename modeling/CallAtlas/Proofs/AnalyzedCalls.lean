import CallAtlas.Proofs.StoreRuns
import CallAtlas.Proofs.WrittenCalls
import CallAtlas.Store.Memory

/-!
# The calls of an analysis

What a mentioned name means can be said on the table of entities alone : `Catalog.calleesMeant`
searches it for the rows with the name, and `Catalog.callsMeant` says which calls a discovered
symbol should have. An analysis that succeeds commits the catalog `Catalog.analyzed`, whatever was
committed before, and there each discovered symbol has those calls : in the table of calls, in the
call graph and in the graph document (`Catalog.ResolvedAs`).
-/

namespace CallAtlas

namespace Catalog

/-! ## The calls that are meant -/

section Meaning

variable (c : Catalog) (o : ResolveOptions)

/-- The rows that a name mentioned in a file may mean : all with the name, or those of them in the
file if these are preferred and there are some. -/
def rowsMeant (fileId : Nat) (name : String) : List EntityRow :=
  let named := c.entities.filter (·.name == name)
  let own := named.filter (·.fileId == fileId)
  if o.matchToFile ∧ own ≠ [] then own else named

/-- The ids of the first rows that a name may mean, as many as the options allow. -/
def calleesMeant (fileId : Nat) (name : String) : CallGroup :=
  let ids := (c.rowsMeant o fileId name).map (·.id)
  o.maxCandidates.elim ids fun l => ids.take l.count

/-- Whether a mentioned name is a call : a row carries it, and it is no initializer that is
left out. -/
def IsCall (name : String) : Prop :=
  (∃ e ∈ c.entities, e.name = name) ∧ ¬(o.suppressInitializers ∧ name ∈ o.initializers)

instance (name : String) : Decidable (c.IsCall o name) :=
  inferInstanceAs (Decidable (_ ∧ _))

/-- The calls that a discovered symbol should have. A body that cannot be read has none. -/
def callsMeant {σ : Type} (i : SourceReader σ) (d : Discovered σ) : List CallGroup :=
  match i.references d.symbol with
  | .ok names => (names.filter (c.IsCall o ·)).map (c.calleesMeant o d.fileId)
  | .error _ => []

theorem isSite_eq (name : String) : c.isSite o name = decide (c.IsCall o name) := by
  rw [Bool.eq_iff_iff, decide_eq_true_iff, isSite, Bool.and_eq_true, hasName_iff, IsCall,
    ResolveOptions.isInitializer]
  cases o.suppressInitializers <;> simp

variable {c}

theorem WellFormed.candidates_eq (h : c.WellFormed) (name : String) (fileId : Nat) :
    c.candidates name fileId o = c.calleesMeant o fileId name := by
  have hown : (c.idsNamed name).filter (c.inFile fileId) =
      ((c.entities.filter (·.name == name)).filter (·.fileId == fileId)).map (·.id) := by
    rw [h.filter_inFile, List.filter_filter]
    simp only [Bool.and_comm]
  have hrows : (if o.matchToFile then c.preferFile fileId (c.idsNamed name) else c.idsNamed name) =
      (c.rowsMeant o fileId name).map (·.id) := by
    rw [preferFile, hown, idsNamed_eq]
    simp only [rowsMeant, List.isEmpty_iff, List.map_eq_nil_iff]
    -- from here on the rows of the file are only compared with the empty list
    generalize (c.entities.filter (·.name == name)).filter (·.fileId == fileId) = own
    by_cases hnil : own = []
    · simp [hnil]
    · by_cases ho : o.matchToFile <;> simp [hnil, ho]
  rw [candidates, hrows, calleesMeant]
  cases o.maxCandidates <;> rfl

/-- The sites that are written are the calls that are meant. -/
theorem WellFormed.callsOf_eq (h : c.WellFormed) {σ : Type} (i : SourceReader σ)
    (d : Discovered σ) :
    c.callsOf i o d = c.callsMeant o i d := by
  rw [callsOf, callsMeant]
  cases i.references d.symbol with
  | error reason => rfl
  | ok names =>
    simp only [sitesOf, h.candidates_eq]
    rw [List.filter_congr fun n _ => c.isSite_eq o n]

end Meaning

/-! ## The analysed catalog -/

section Analyzed

variable {σ : Type} (i : SourceReader σ) (o : ResolveOptions) (sources : List Source)

/-- The symbols that are discovered in sources. -/
def discovered : List (Discovered σ) :=
  (empty.addSources i sources).2.1

/-- The catalog of sources : what they declare, then the calls. -/
def analyzed : Catalog :=
  ((empty.addSources i sources).1.addCallsOfAll i o (discovered i sources)).1

/-- The discovered symbols of `c` have the calls that are meant, and nothing else has calls. -/
structure ResolvedAs (c : Catalog) (found : List (Discovered σ)) : Prop where
  /-- Exactly the functions and methods are discovered, each of them once. -/
  tags : found.map (·.tag) = (EntityRow.executables c.entities).map (·.tag)
  nodup : (found.map (·.entityId)).Nodup
  /-- A discovered symbol is shown, with its calls in order. -/
  shown : ∀ d ∈ found, ∃ e, c.project.get? d.entityId = some e ∧ e.calls = c.callsMeant o i d
  /-- What is not discovered has no calls. -/
  others : ∀ u e, c.project.get? u = some e → u ∉ found.map (·.entityId) → e.calls = []
  /-- The rows under the key with number `k` are the callees of the call with number `k`. -/
  keyed : ∀ d ∈ found, ∀ k,
    (c.calls.filter fun r => r.caller == d.entityId && r.key == siteKey d.entityId k).map
      (·.callee) =
      (c.callsMeant o i d)[k]?.getD []
  /-- There are no rows under other keys. -/
  callers : ∀ r ∈ c.calls, r.caller ∈ found.map (·.entityId) ∧ ∃ k, r.key = siteKey r.caller k
  /-- The document numbers the calls in the same way. -/
  document : ∀ d ∈ found,
    (Report.GraphDocument.ofProjection c.project).callSites.filter (·.caller == d.entityId) =
      (c.callsMeant o i d).zipIdx.map fun (g, k) => ⟨d.entityId, k, g, decide (1 < g.length)⟩

theorem nodup_discovered : ((discovered i sources).map (·.entityId)).Nodup :=
  (registered_addSources i sources).nodup_found

/-- The calls of a caller are those that its symbol means. -/
theorem ofCaller_analyzed (u : Nat) : CallRow.ofCaller u (analyzed i o sources).calls =
    ((discovered i sources).find? (·.entityId == u)).elim [] fun d =>
      CallGroup.sites u 0 ((analyzed i o sources).callsMeant o i d) := by
  have hreg := registered_addSources i sources
  rw [analyzed, discovered, ofCaller_addCallsOfAll _ i o hreg.nodup_found, hreg.calls,
    addCallsOfAll_eq]
  cases (empty.addSources i sources).2.1.find? (·.entityId == u) with
  | none => rfl
  | some d => exact congrArg (CallGroup.sites u 0) (hreg.wellFormed.callsOf_eq o i d)

theorem wellFormed_analyzed : (analyzed i o sources).WellFormed := by
  rw [analyzed, addCallsOfAll_eq]
  exact (registered_addSources i sources).wellFormed.withMoreCalls _

theorem byKey_callsMeant (d : Discovered σ) (u : Nat) :
    CallGroup.byKey (CallGroup.sites u 0 ((analyzed i o sources).callsMeant o i d)) =
      (analyzed i o sources).callsMeant o i d := by
  refine CallGroup.byKey_sites _ 0 fun g hg => ?_
  rw [← (wellFormed_analyzed i o sources).callsOf_eq] at hg
  exact ne_nil_of_mem_callsOf _ hg

/-- What is shown for an id, with the calls that its symbol means. -/
theorem get?_project_analyzed (u : Nat) : (analyzed i o sources).project.get? u =
    ((analyzed i o sources).entities.find? (·.id == u)).bind fun e =>
      ((analyzed i o sources).file? e.fileId).map fun f =>
        Catalog.shown e f (((discovered i sources).find? (·.entityId == u)).elim []
          ((analyzed i o sources).callsMeant o i)) := by
  rw [get?_project (wellFormed_analyzed i o sources).entities.nodup]
  cases hfind : (analyzed i o sources).entities.find? (·.id == u) with
  | none => rfl
  | some e =>
    obtain rfl : e.id = u := by simpa using List.find?_some hfind
    simp only [Option.bind_some, ofCaller_analyzed]
    cases (discovered i sources).find? (·.entityId == e.id) with
    | none => rfl
    | some d => simp only [Option.elim_some, byKey_callsMeant]

theorem registered_analyzed : (analyzed i o sources).files = (empty.addSources i sources).1.files ∧
    (analyzed i o sources).entities = (empty.addSources i sources).1.entities := by
  rw [analyzed, addCallsOfAll_eq]
  exact ⟨rfl, rfl⟩

/-- A discovered symbol is shown with the calls that it means. -/
theorem exists_shown_of_discovered {d : Discovered σ} (hd : d ∈ discovered i sources) :
    ∃ e, (analyzed i o sources).project.get? d.entityId = some e ∧
      e.calls = (analyzed i o sources).callsMeant o i d := by
  have hreg := registered_addSources i sources
  have hwf := wellFormed_analyzed i o sources
  obtain ⟨hfiles, hentities⟩ := registered_analyzed i o sources
  have hrow : d.tag ∈ (EntityRow.executables (empty.addSources i sources).1.entities).map (·.tag) :=
    hreg.found ▸ List.mem_map_of_mem hd
  obtain ⟨e, he, htag⟩ := List.mem_map.mp hrow
  replace he := List.mem_of_mem_filter he
  have hid : e.id = d.entityId := congrArg (·.1) htag
  obtain ⟨f, hf, hfile⟩ := hreg.homes e he
  rw [← hentities] at he
  rw [← hfiles] at hf
  refine ⟨Catalog.shown e f ((analyzed i o sources).callsMeant o i d), ?_, rfl⟩
  rw [get?_project_analyzed, find?_key_of_mem (nodup_discovered i sources) hd, ← hid,
    find?_key_of_mem hwf.entities.nodup he, Option.bind_some, ← hfile, hwf.file?_id hf]
  rfl

theorem resolvedAs_analyzed : ResolvedAs i o (analyzed i o sources) (discovered i sources) where
  tags := by
    rw [(registered_analyzed i o sources).2]
    exact (registered_addSources i sources).found
  nodup := nodup_discovered i sources
  shown d hd := exists_shown_of_discovered i o sources hd
  others u e he hu := by
    have hnone : (discovered i sources).find? (·.entityId == u) = none :=
      List.find?_eq_none.mpr fun d hd hid => hu (List.mem_map.mpr ⟨d, hd, by simpa using hid⟩)
    rw [get?_project_analyzed, hnone] at he
    obtain ⟨r, -, he⟩ := Option.bind_eq_some_iff.mp he
    obtain ⟨f, -, rfl⟩ := Option.map_eq_some_iff.mp he
    rfl
  keyed d hd k := by
    have hown := ofCaller_analyzed i o sources d.entityId
    rw [find?_key_of_mem (nodup_discovered i sources) hd, Option.elim_some] at hown
    have hunder := CallGroup.under_sites (u := d.entityId)
      ((analyzed i o sources).callsMeant o i d) 0 k
    rw [← hown, Nat.zero_add, CallGroup.under, CallRow.ofCaller, List.filter_map, List.map_map,
      List.filter_filter] at hunder
    simpa only [Function.comp_def, Bool.and_comm] using hunder
  callers r hr := by
    have hmem : (r.key, r.callee) ∈ CallRow.ofCaller r.caller (analyzed i o sources).calls :=
      List.mem_map.mpr ⟨r, List.mem_filter.mpr ⟨hr, by simp⟩, rfl⟩
    rw [ofCaller_analyzed] at hmem
    cases hfind : (discovered i sources).find? (·.entityId == r.caller) with
    | none => simp [hfind] at hmem
    | some d =>
      rw [hfind, Option.elim_some] at hmem
      obtain ⟨k, -, hk⟩ := CallGroup.exists_of_mem_sites hmem
      exact ⟨List.mem_map.mpr
        ⟨d, List.mem_of_find?_eq_some hfind, by simpa using List.find?_some hfind⟩,
        k, hk⟩
  document d hd := by
    obtain ⟨e, he, hcalls⟩ := exists_shown_of_discovered i o sources hd
    rw [Report.GraphDocument.callSites_of_caller, he, Option.elim_some,
      Report.GraphDocument.sites, hcalls]
    rfl

end Analyzed

end Catalog

/-! ## Analysing a store -/

namespace Store

variable {β σ : Type} [Backend β] (s : Store β) (sources : List Source) (i : SourceReader σ)
  (o : ResolveOptions)

/-- An analysis that succeeds has committed the catalog of its sources, and the backend took
it last. -/
theorem committed_analyze {report : AnalysisReport}
    (h : (s.analyze (.ok sources) i o).2.2 = .ok report) :
    (s.analyze (.ok sources) i o).1.committed = Catalog.analyzed i o sources ∧
      ∃ b, Backend.persist b (Catalog.analyzed i o sources) =
        ((s.analyze (.ok sources) i o).1.backend, .ok ()) := by
  rw [analyze] at h ⊢
  rcases hclear : s.clear with ⟨s₁, e | u⟩
  · simp [hclear] at h
  rcases hcat : s₁.transaction id (Catalog.catalogPhase i sources) with ⟨s₂, w, e | ⟨found, failed⟩⟩
  · simp [hclear, hcat] at h
  rcases hres : s₂.transaction id (Catalog.resolvePhase i o found) with ⟨s₃, w', e | stats⟩
  · simp [hclear, hcat, hres] at h
  obtain ⟨hempty, -⟩ := clear_eq_ok hclear
  obtain ⟨hfound, -⟩ := transaction_eq_ok hcat
  obtain ⟨hcalls, hp⟩ := transaction_eq_ok hres
  simp only [Catalog.catalogPhase, hempty, Prod.mk.injEq, Except.ok.injEq] at hfound
  simp only [Catalog.resolvePhase, Prod.mk.injEq, Except.ok.injEq] at hcalls
  have hs₃ : s₃.committed = Catalog.analyzed i o sources := by
    rw [← hcalls.1, ← hfound.1, ← hfound.2.2.1]
    rfl
  simp only [hcat, hres]
  exact ⟨hs₃, s₂.backend, hs₃ ▸ hp⟩

/-- **Resolution is exact.** An analysis that succeeds commits a catalog that depends on the
sources, the reader and the options only, not on the store. In it each discovered symbol has exactly
the calls that its body means, and nothing else has calls. -/
theorem analyze_resolves_exactly {report : AnalysisReport}
    (h : (s.analyze (.ok sources) i o).2.2 = .ok report) :
    (∀ {γ : Type} [Backend γ] (t : Store γ) (report' : AnalysisReport),
      (t.analyze (.ok sources) i o).2.2 = .ok report' →
        (t.analyze (.ok sources) i o).1.committed = (s.analyze (.ok sources) i o).1.committed) ∧
    (∃ b, Backend.persist b (s.analyze (.ok sources) i o).1.committed =
      ((s.analyze (.ok sources) i o).1.backend, .ok ())) ∧
    Catalog.ResolvedAs i o (s.analyze (.ok sources) i o).1.committed
      (Catalog.discovered i sources) := by
  obtain ⟨hs, hb⟩ := s.committed_analyze sources i o h
  rw [hs]
  refine ⟨fun t report' ht => ?_, hb, Catalog.resolvedAs_analyzed i o sources⟩
  exact (t.committed_analyze sources i o ht).1

/-- Two files that both declare `run`. -/
def twoFiles : List Source :=
  [⟨"/src/a.rs", "a", 1⟩, ⟨"/src/b.rs", "b", 2⟩]

/-- A reader whose symbols are the bodies themselves, some of them unreadable. -/
def bodies : SourceReader (Option (List String)) where
  declarations f := .ok (if f.importPath = "a" then
      [.mk "Box" .classType none [.mk "new" .method (some []) [], .mk "run" .method none []],
        .mk "main" .function (some ["new", "run", "gone", "help", "run"]) []]
    else [.mk "run" .function (some ["help"]) [], .mk "help" .function (some ["run"]) []])
  references symbol := symbol.elim (.error "no body") .ok

/-- Initializers left out, and names of the own file preferred. -/
def ownFirst : ResolveOptions where
  suppressInitializers := true
  matchToFile := true

/-- The symbols of two files, analysed in a store that held something else. -/
theorem analyze_resolves_exactly_two_files :
    let s : Store Memory := ⟨{}, (Catalog.empty.addFile ⟨"/src/old.rs", "old", 0⟩).1⟩
    let c := (s.analyze (.ok twoFiles) bodies ownFirst).1.committed
    (s.analyze (.ok twoFiles) bodies ownFirst).2.2 = .ok ⟨2, 0, 6, ⟨4, 1, 5, 5⟩⟩ ∧
    Catalog.ResolvedAs bodies ownFirst c (Catalog.discovered bodies twoFiles) ∧
    (Catalog.discovered bodies twoFiles).map
      (fun d => (d.entityId, c.callsMeant ownFirst bodies d)) =
      [(2, []), (3, []), (4, [[3], [6], [3]]), (5, [[6]]), (6, [[5]])] := by
  intro s c
  have hok : (s.analyze (.ok twoFiles) bodies ownFirst).2.2 = .ok ⟨2, 0, 6, ⟨4, 1, 5, 5⟩⟩ := by
    decide
  exact ⟨hok, (s.analyze_resolves_exactly twoFiles bodies ownFirst hok).2.2, by decide⟩

end Store

end CallAtlas
