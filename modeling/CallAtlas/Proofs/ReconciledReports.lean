import Mathlib.Data.Finset.Card
import CallAtlas.Proofs.AnalysisPhases
import CallAtlas.Proofs.Containment

/-!
# Reports and tables

The counts of a report are taken in different places : files and entities from the tables at the
end, failed files while sources are registered, callers and call sites while calls are written.
`Store.Reconciles` says what they come to. The row of an import path is that of the first source
with the path (`Catalog.find?_registered`), so the sources that are left out can be told from the
list of sources and the rows of files alone (`Catalog.length_sourceWarnings`). The keys of calls
tell callers and sites apart, and every site writes a row, so there are as many keys as sites
(`Catalog.card_keys_analyzed`).

The tables point to each other only : callers, callees, files and owners have rows, and every entity
is shown.
-/

namespace CallAtlas

variable {σ : Type}

namespace Catalog

variable (i : SourceReader σ) (o : ResolveOptions) (sources : List Source)

/-! ## Files -/

/-- The file with an import path is that of the first source with the path. -/
theorem find?_registered (path : String) :
    ((registered i sources).files.find? (·.importPath == path)).map (·.toSource) =
      sources.find? (·.importPath == path) := by
  induction sources using List.reverseRecOn with
  | nil => rfl
  | append_singleton sources s ih =>
    rw [registered_concat, files_addSource i (wellFormed_registered i sources), List.find?_append]
    rcases (registered i sources).addFile_cases s with ⟨f, hf, hpath, he⟩ | ⟨hnew, he⟩
    · rw [he, ih]
      by_cases hs : s.importPath = path
      · -- the path has a row, so an earlier source had it
        have hfound : ((registered i sources).files.find? (·.importPath == path)).isSome = true :=
          List.find?_isSome.mpr ⟨f, hf, by simp [hpath, hs]⟩
        rw [← Option.isSome_map (f := (·.toSource)), ih] at hfound
        rw [Option.or_of_isSome hfound]
      · simp [hs]
    · rw [he, files_pushFile, List.find?_append]
      by_cases hs : s.importPath = path
      · have hnone : (registered i sources).files.find? (·.importPath == path) = none :=
          List.find?_eq_none.mpr fun f hf => by simpa [hs] using hnew f hf
        rw [← ih, hnone]
        simp [hs]
      · simp [hs, ih]

theorem mem_paths_registered {path : String} :
    path ∈ (registered i sources).files.map (·.importPath) ↔ path ∈ sources.map (·.importPath) := by
  have hsome := congrArg Option.isSome (find?_registered i sources path)
  rw [Option.isSome_map, Bool.eq_iff_iff, List.find?_isSome, List.find?_isSome] at hsome
  simpa using hsome

/-- There are as many files as import paths. -/
theorem length_files_registered :
    (registered i sources).files.length = (sources.map (·.importPath)).toFinset.card := by
  have hpaths : (sources.map (·.importPath)).toFinset =
      ((registered i sources).files.map (·.importPath)).toFinset := by
    ext path
    rw [List.mem_toFinset, List.mem_toFinset, mem_paths_registered]
  rw [hpaths, List.toFinset_card_of_nodup (wellFormed_registered i sources).paths, List.length_map]

/-! ## Sources that are left out -/

/-- Whether the import path of a source belongs to another file : that of the first source with
the path. -/
def isClaimed (s : Source) : Bool :=
  (sources.find? (·.importPath == s.importPath)).any (·.fullPath != s.fullPath)

/-- Whether the declarations of the file with the import path of a source cannot be read. -/
def isUnread (c : Catalog) (s : Source) : Bool :=
  (c.files.find? (·.importPath == s.importPath)).any fun f => !(i.declarations f).isOk

variable {i} in
theorem leftOut_iff {s : Source} : LeftOut i sources s ↔
    (isClaimed sources s || isUnread i (registered i sources) s) = true := by
  have hfirst := find?_registered i sources s.importPath
  rw [Bool.or_eq_true, isClaimed, isUnread, ← hfirst]
  cases hfind : (registered i sources).files.find? (·.importPath == s.importPath) with
  | none =>
    rw [List.find?_eq_none] at hfind
    have hno : ¬LeftOut i sources s := fun ⟨f, hf, hpath, _⟩ => hfind f hf (by simp [hpath])
    simp [hno]
  | some f =>
    have hf := List.mem_of_find?_eq_some hfind
    have hpath : f.importPath = s.importPath := by simpa using List.find?_some hfind
    have hread : (∃ reason, i.declarations f = .error reason) ↔
        (i.declarations f).isOk = false := by
      cases i.declarations f with
      | error reason => simp [Except.isOk, Except.toBool]
      | ok ds => simp [Except.isOk, Except.toBool]
    have hleft : LeftOut i sources s ↔
        f.fullPath ≠ s.fullPath ∨ ∃ reason, i.declarations f = .error reason := by
      constructor
      · rintro ⟨g, hg, hgpath, hwhy⟩
        rwa [row_unique hf hg (hpath.trans hgpath.symm)]
      · exact fun hwhy => ⟨f, hf, hpath, hwhy⟩
    rw [hleft, hread]
    simp

/-- The warnings about one source. -/
def warningsOf : Except SourceError (List (Discovered σ)) → List Warning
  | .ok _ => []
  | .error e => [{ message := e.message }]

theorem warnings_addSources_concat (c : Catalog) (s : Source) :
    (c.addSources i (sources ++ [s])).2.2 =
      (c.addSources i sources).2.2 ++ warningsOf ((c.addSources i sources).1.addSource i s).2 := by
  induction sources generalizing c with
  | nil =>
    simp only [List.nil_append, addSources]
    rcases c.addSource i s with ⟨c', e | found⟩
    · rfl
    · rfl
  | cons t sources ih =>
    simp only [List.cons_append, addSources]
    rcases c.addSource i t with ⟨c', e | found⟩
    · simp [ih c']
    · exact ih c'

/-- A source has a warning if it is left out, whatever follows. -/
theorem length_warningsOf (before rest : List Source) (s : Source) :
    (warningsOf ((registered i before).addSource i s).2).length =
      if isClaimed (before ++ s :: rest) s || isUnread i (registered i (before ++ s :: rest)) s
        then 1 else 0 := by
  have hleft :
      (∃ e, (registered i before).addSource i s = (((registered i before).addFile s).1, .error e)) ↔
      LeftOut i (before ++ s :: rest) s := addSource_eq_error_iff
  rw [leftOut_iff] at hleft
  split
  · rename_i h
    obtain ⟨e, he⟩ := hleft.mpr h
    rw [he]
    rfl
  · rename_i h
    obtain ⟨f, -, -, ⟨-, he⟩ | ⟨-, reason, -, he⟩ | ⟨-, ds, -, he⟩⟩ :=
      addSource_cases i (wellFormed_registered i before) s
    · exact absurd (hleft.mp ⟨_, he⟩) h
    · exact absurd (hleft.mp ⟨_, he⟩) h
    · rw [he]
      rfl

/-- There is a warning for each source that is left out, whatever follows. -/
theorem length_sourceWarnings (rest : List Source) : (sourceWarnings i sources).length =
    sources.countP fun s =>
      isClaimed (sources ++ rest) s || isUnread i (registered i (sources ++ rest)) s := by
  induction sources using List.reverseRecOn generalizing rest with
  | nil => rfl
  | append_singleton sources s ih =>
    have hsplit : sources ++ [s] ++ rest = sources ++ s :: rest := by simp
    rw [sourceWarnings, warnings_addSources_concat, List.length_append, List.countP_append,
      List.countP_singleton, hsplit]
    exact congrArg₂ (· + ·) (ih (s :: rest)) (length_warningsOf i sources rest s)

/-- Of the sources that are left out, some have a path that is taken, and the others cannot
be read. -/
theorem length_sourceWarnings_eq : (sourceWarnings i sources).length =
    sources.countP (isClaimed sources) +
      sources.countP fun s => !isClaimed sources s && isUnread i (registered i sources) s := by
  rw [length_sourceWarnings i sources [], List.append_nil,
    List.countP_eq_countP_filter_add _ _ (isClaimed sources), List.countP_filter,
    List.countP_filter]
  refine congrArg₂ (· + ·) (List.countP_congr fun s _ => ?_) (List.countP_congr fun s _ => ?_)
  · cases isClaimed sources s <;> simp
  · cases isClaimed sources s <;> simp

/-! ## Rows that other rows name -/

/-- Registering sources is a run of cataloging. -/
theorem exists_ops_registered : ∃ ops, registered i sources = cataloged ops := by
  induction sources using List.reverseRecOn with
  | nil => exact ⟨[], rfl⟩
  | append_singleton sources s ih =>
    obtain ⟨ops, hops⟩ := ih
    have hfile : cataloged (ops ++ [.addFile s]) = ((registered i sources).addFile s).1 := by
      simp [cataloged, hops, CatalogingOp.apply]
    rw [registered_concat]
    obtain ⟨f, -, -, ⟨-, he⟩ | ⟨-, reason, -, he⟩ | ⟨-, ds, -, he⟩⟩ :=
      addSource_cases i (wellFormed_registered i sources) s
    · exact ⟨ops ++ [.addFile s], by rw [he, hfile]⟩
    · exact ⟨ops ++ [.addFile s], by rw [he, hfile]⟩
    · refine ⟨ops ++ [.addFile s] ++ [.declare f.id f.importPath ds], ?_⟩
      rw [he, ← hfile]
      simp [cataloged, CatalogingOp.apply]

/-- The calls that an analysis writes : caller, key and callee. -/
def writtenCalls : List (Nat × String × Nat) :=
  (discovered i sources).flatMap fun d =>
    (CallGroup.sites d.entityId 0 ((registered i sources).callsOf i o d)).map (d.entityId, ·)

theorem calls_analyzed : (analyzed i o sources).calls = callRows 0 (writtenCalls i o sources) := by
  have hnone : (registered i sources).calls = [] := (registered_addSources i sources).calls
  have hanalyzed : analyzed i o sources =
      (registered i sources).withMoreCalls (writtenCalls i o sources) :=
    addCallsOfAll_eq (registered i sources) i o (discovered i sources)
  rw [hanalyzed, withMoreCalls, hnone]
  rfl

variable {i o sources} in
theorem exists_of_mem_calls {r : CallRow} (hr : r ∈ (analyzed i o sources).calls) :
    ∃ d ∈ discovered i sources, r.caller = d.entityId ∧
      (r.key, r.callee) ∈ CallGroup.sites d.entityId 0 ((registered i sources).callsOf i o d) := by
  rw [calls_analyzed] at hr
  obtain ⟨d, hd, hmem⟩ := List.mem_flatMap.mp (mem_of_mem_callRows hr)
  obtain ⟨x, hx, heq⟩ := List.mem_map.mp hmem
  obtain ⟨hcaller, rfl⟩ := Prod.mk.inj heq
  exact ⟨d, hd, hcaller.symm, hx⟩

variable {i sources} in
/-- What is discovered has a row with a body. -/
theorem exists_row_of_mem_discovered {d : Discovered σ} (hd : d ∈ discovered i sources) :
    ∃ e ∈ (registered i sources).entities, e.id = d.entityId ∧ e.kind.isExecutable = true := by
  have htag : d.tag ∈ (EntityRow.executables (registered i sources).entities).map (·.tag) := by
    rw [registered, ← (registered_addSources i sources).found]
    exact List.mem_map_of_mem hd
  obtain ⟨e, he, htag⟩ := List.mem_map.mp htag
  obtain ⟨hmem, hkind⟩ := List.mem_filter.mp he
  exact ⟨e, hmem, congrArg (·.1) htag, hkind⟩

/-! ## Counting calls -/

theorem length_calls_analyzed : (analyzed i o sources).calls.length =
    ((discovered i sources).flatMap ((registered i sources).callsOf i o)).flatten.length := by
  rw [calls_analyzed, length_callRows, writtenCalls]
  induction discovered i sources with
  | nil => rfl
  | cons d ds ih =>
    rw [List.flatMap_cons, List.flatMap_cons, List.length_append, List.flatten_append,
      List.length_append, ih, List.length_map, CallGroup.length_sites]

/-- The keys of the calls of a symbol, each once. -/
def keysOf (d : Discovered σ) : List String :=
  CallGroup.keys (CallGroup.sites d.entityId 0 ((registered i sources).callsOf i o d))

theorem length_keysOf (d : Discovered σ) :
    (keysOf i o sources d).length = ((registered i sources).callsOf i o d).length :=
  CallGroup.length_keys_sites fun _ hg => ne_nil_of_mem_callsOf _ hg

theorem toFinset_keys_analyzed : ((analyzed i o sources).calls.map (·.key)).toFinset =
    ((discovered i sources).flatMap (keysOf i o sources)).toFinset := by
  ext key
  rw [List.mem_toFinset, List.mem_toFinset, calls_analyzed, map_key_callRows, writtenCalls,
    List.map_flatMap, List.mem_flatMap, List.mem_flatMap]
  simp [keysOf, CallGroup.keys]

/-- Two symbols have no key in common. -/
theorem disjoint_keysOf {d d' : Discovered σ} (h : d.entityId ≠ d'.entityId) :
    List.Disjoint (keysOf i o sources d) (keysOf i o sources d') := by
  intro key hkey hkey'
  obtain ⟨x, hx, rfl⟩ := List.mem_map.mp (List.mem_eraseDups.mp hkey)
  obtain ⟨x', hx', heq⟩ := List.mem_map.mp (List.mem_eraseDups.mp hkey')
  obtain ⟨m, -, hm⟩ := CallGroup.exists_of_mem_sites hx
  obtain ⟨m', -, hm'⟩ := CallGroup.exists_of_mem_sites hx'
  exact h (caller_eq_of_siteKey_eq (hm.symm.trans (heq.symm.trans hm')))

theorem nodup_keysOf_discovered : ((discovered i sources).flatMap (keysOf i o sources)).Nodup := by
  have hids := nodup_discovered i sources
  rw [List.Nodup, List.pairwise_map] at hids
  refine List.nodup_flatMap.mpr ⟨fun d _ => CallGroup.nodup_keys _, hids.imp fun hne => ?_⟩
  exact disjoint_keysOf i o sources hne

/-- There are as many keys as sites. -/
theorem card_keys_analyzed : ((analyzed i o sources).calls.map (·.key)).toFinset.card =
    ((discovered i sources).flatMap ((registered i sources).callsOf i o)).length := by
  rw [toFinset_keys_analyzed, List.toFinset_card_of_nodup (nodup_keysOf_discovered i o sources),
    List.length_flatMap, List.length_flatMap]
  simp only [length_keysOf]

/-- Every function and method is discovered once. -/
theorem length_discovered : (discovered i sources).length =
    (registered i sources).entities.countP fun e => e.kind = .function ∨ e.kind = .method := by
  have hfound := congrArg List.length (registered_addSources i sources).found
  rw [List.length_map, List.length_map, EntityRow.executables,
    ← List.countP_eq_length_filter] at hfound
  refine hfound.trans (List.countP_congr fun e _ => ?_)
  rw [Kind.isExecutable_iff, decide_eq_true_iff]

/-! ## What is shown -/

/-- If the files of all entities are known, every entity is shown. -/
theorem WellFormed.ids_project {c : Catalog} (h : c.WellFormed)
    (hfiles : ∀ e ∈ c.entities, ∃ f ∈ c.files, f.id = e.fileId) :
    c.project.ids = c.entities.map (·.id) := by
  have hshown : c.project.ids.Pairwise (· < ·) := by
    rw [IdMap.ids, List.pairwise_map]
    exact c.project.ascending
  have hrows : (c.entities.map (·.id)).Pairwise (· < ·) := by
    rw [h.entities]
    exact List.pairwise_lt_range'
  refine IdSet.eq_of_mem_iff hshown hrows fun k => ⟨fun hk => ?_, fun hk => ?_⟩
  · obtain ⟨⟨k, a⟩, hx, rfl⟩ := List.mem_map.mp hk
    have hget := IdMap.get?_eq_some_iff.mpr hx
    rw [get?_project h.entities.nodup] at hget
    obtain ⟨e, he, -⟩ := Option.bind_eq_some_iff.mp hget
    exact List.mem_map.mpr ⟨e, List.mem_of_find?_eq_some he, by simpa using List.find?_some he⟩
  · obtain ⟨e, he, rfl⟩ := List.mem_map.mp hk
    obtain ⟨f, hf, hfile⟩ := hfiles e he
    have hget : c.project.get? e.id =
        some (shown e f (CallGroup.byKey (CallRow.ofCaller e.id c.calls))) := by
      rw [get?_project h.entities.nodup, find?_key_of_mem h.entities.nodup he,
        Option.bind_some, ← hfile, h.file?_id hf, Option.map_some]
    exact List.mem_map.mpr ⟨_, IdMap.mem_of_get? hget, rfl⟩

/-! ## The report -/

/-- A report on sources agrees with the tables of a catalog, and the tables name rows of each
other only. -/
structure Reconciles (c : Catalog) (report : AnalysisReport) : Prop where
  files : report.files = c.files.length
  paths : report.files = (sources.map (·.importPath)).toFinset.card
  /-- The file of a source is that of the first source with its import path. -/
  first : ∀ s ∈ sources, ∃ f ∈ c.files,
    sources.find? (·.importPath == s.importPath) = some f.toSource
  failed : report.failedFiles = sources.countP (isClaimed sources) +
    sources.countP fun s => !isClaimed sources s && isUnread i c s
  entities : report.entities = c.entities.length
  symbols : report.resolve.callers + report.resolve.skipped =
    c.entities.countP fun e => e.kind = .function ∨ e.kind = .method
  rows : report.resolve.rows = c.calls.length
  sites : report.resolve.sites = (c.calls.map (·.key)).toFinset.card
  callers : ∀ r ∈ c.calls, ∃ e ∈ c.entities, e.id = r.caller ∧
    (e.kind = .function ∨ e.kind = .method)
  callees : ∀ r ∈ c.calls, ∃ e ∈ c.entities, e.id = r.callee
  homes : ∀ e ∈ c.entities, ∃ f ∈ c.files, f.id = e.fileId
  owners : ∀ e ∈ c.entities, ∀ k, e.owner = some k → ∃ e' ∈ c.entities, e'.id = k
  /-- Every entity is shown. -/
  shown : c.project.ids = c.entities.map (·.id)

theorem reconciles_analysisReport :
    Reconciles i sources (analyzed i o sources) (analysisReport i o sources) := by
  have htallies := tallies_addCallsOfAll (registered i sources) i o (discovered i sources)
  have hfiles : (analyzed i o sources).files = (registered i sources).files :=
    (registered_analyzed i o sources).1
  have hentities : (analyzed i o sources).entities = (registered i sources).entities :=
    (registered_analyzed i o sources).2
  have hhomes : ∀ e ∈ (analyzed i o sources).entities,
      ∃ f ∈ (analyzed i o sources).files, f.id = e.fileId := by
    rw [hfiles, hentities]
    exact (registered_addSources i sources).homes
  refine
    { files := rfl
      paths := ?paths
      first := fun s hs => ?first
      failed := ?failed
      entities := rfl
      symbols := ?symbols
      rows := htallies.rows.trans (length_calls_analyzed i o sources).symm
      sites := htallies.sites.trans (card_keys_analyzed i o sources).symm
      callers := fun r hr => ?callers
      callees := fun r hr => ?callees
      homes := hhomes
      owners := fun e he k hk => ?owners
      shown := (wellFormed_analyzed i o sources).ids_project hhomes }
  case paths =>
    rw [analysisReport, hfiles, length_files_registered]
  case first =>
    have hpath := (mem_paths_registered i sources).mpr (List.mem_map_of_mem hs)
    obtain ⟨f, hf, hfs⟩ := List.mem_map.mp hpath
    have hrow := find?_key_of_mem (wellFormed_registered i sources).paths hf
    rw [hfs] at hrow
    exact ⟨f, hfiles ▸ hf, by rw [← find?_registered i, hrow, Option.map_some]⟩
  case failed =>
    have hunread : ∀ s, isUnread i (analyzed i o sources) s =
        isUnread i (registered i sources) s := fun s => by
      rw [isUnread, isUnread, hfiles]
    simp only [hunread]
    exact length_sourceWarnings_eq i sources
  case symbols =>
    rw [hentities, ← length_discovered]
    exact htallies.symbols
  case callers =>
    obtain ⟨d, hd, hcaller, -⟩ := exists_of_mem_calls hr
    obtain ⟨e, he, hid, hkind⟩ := exists_row_of_mem_discovered hd
    exact ⟨e, hentities ▸ he, hid.trans hcaller.symm, Kind.isExecutable_iff.mp hkind⟩
  case callees =>
    obtain ⟨d, hd, -, hsite⟩ := exists_of_mem_calls hr
    obtain ⟨g, hg, hcallee⟩ := CallGroup.exists_group_of_mem_sites hsite
    rw [hentities]
    exact exists_row_of_mem_callsOf _ hg hcallee
  case owners =>
    obtain ⟨ops, hops⟩ := exists_ops_registered i sources
    rw [hentities, hops] at he ⊢
    obtain ⟨r, hr, hid, -⟩ := (contained_of_cataloged ops).owner e he k hk
    exact ⟨r, hr, hid⟩

end Catalog

namespace Store

variable {β : Type} [Backend β]

omit [Backend β] in
/-- A report of success is that of the catalog that is committed. -/
theorem Outcome.eq_of_ok {s : Store β} {i : SourceReader σ} {o : ResolveOptions}
    {sources : List Source} {w : List (Catalog × Bool)} {c : Catalog} {report : AnalysisReport}
    (h : Outcome s (.ok sources) i o w c (.ok report)) :
    report = Catalog.analysisReport i o sources ∧ c = Catalog.analyzed i o sources := by
  cases h with
  | done hfound =>
    obtain rfl := Except.ok.inj hfound
    exact ⟨rfl, rfl⟩

/-- **Reports reconcile with tables.** The report of an analysis that succeeds counts the
rows, import paths, failed files, functions and methods, and call sites that the tables and
the sources show, whatever comes twice, is taken or cannot be read. In the tables all rows
that are named are there, so every entity is shown. -/
theorem analyze_reconciles (s : Store β) (sources : List Source) (i : SourceReader σ)
    (o : ResolveOptions) {report : AnalysisReport}
    (h : (s.analyze (.ok sources) i o).2.2 = .ok report) :
    Catalog.Reconciles i sources (s.analyze (.ok sources) i o).1.committed report := by
  have houtcome := s.outcome_analyze (.ok sources) i o
  rw [h] at houtcome
  obtain ⟨hreport, hcommitted⟩ := houtcome.eq_of_ok
  rw [hreport, hcommitted]
  exact Catalog.reconciles_analysisReport i o sources

/-- Sources of which one comes twice, one has a path that is taken, and one that comes twice cannot
be read. -/
def untidyFiles : List Source :=
  [⟨"/src/a.rs", "a", 1⟩, ⟨"/src/a.rs", "a", 2⟩, ⟨"/old/a.rs", "a", 3⟩, ⟨"/src/b.rs", "b", 4⟩,
    ⟨"/src/c.rs", "c", 5⟩, ⟨"/src/c.rs", "c", 6⟩]

/-- A reader that fails on one file, and on one body. -/
def someBodies : SourceReader (Option (List String)) where
  declarations f := if f.importPath = "c" then .error "no text" else bodies.declarations f
  references := bodies.references

theorem analyze_reconciles_untidy_files :
    let s : Store Memory := ⟨{}, (Catalog.empty.addFile ⟨"/src/old.rs", "old", 0⟩).1⟩
    (s.analyze (.ok untidyFiles) someBodies {}).2.2 = .ok ⟨3, 3, 6, ⟨4, 1, 6, 9⟩⟩ ∧
    Catalog.Reconciles someBodies untidyFiles
      (s.analyze (.ok untidyFiles) someBodies {}).1.committed
      ⟨3, 3, 6, ⟨4, 1, 6, 9⟩⟩ := by
  intro s
  have hok : (s.analyze (.ok untidyFiles) someBodies {}).2.2 = .ok ⟨3, 3, 6, ⟨4, 1, 6, 9⟩⟩ := by
    decide
  exact ⟨hok, s.analyze_reconciles untidyFiles someBodies {} hok⟩

end Store

end CallAtlas
