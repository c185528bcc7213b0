import Mathlib.Data.List.Infix
import CallAtlas.Proofs.AnalyzedCalls

/-!
# Sources that are left out

A source is left out if its import path belongs to another file, or if its declarations cannot be
read (`Catalog.LeftOut`). Registering it gives at most a file row, so it contributes no entity, no
symbol and no call (`Catalog.contribution_of_leftOut`). What the other sources contribute is what
they would contribute if the source declared nothing (`Catalog.contribution_blankFor`) : after each
source the two registrations are in the same state.
-/

namespace CallAtlas

variable {σ : Type}

/-- A reader that finds no declarations in a source, and reads everything else as before. -/
def SourceReader.blankFor (i : SourceReader σ) (s : Source) : SourceReader σ where
  declarations f :=
    if f.fullPath = s.fullPath ∧ f.importPath = s.importPath then .ok [] else i.declarations f
  references := i.references

namespace Catalog

variable (i : SourceReader σ) (o : ResolveOptions)

/-! ## Registering one source -/

/-- A registered file has its row under its id. -/
theorem exists_row_of_addFile {c : Catalog} (h : c.WellFormed) (s : Source) :
    ∃ f ∈ (c.addFile s).1.files, f.importPath = s.importPath ∧ (c.addFile s).2 = f.id ∧
      (c.addFile s).1.file? f.id = some f := by
  have hwf := h.addFile s
  rcases c.addFile_cases s with ⟨f, hf, hp, he⟩ | ⟨-, he⟩
  · rw [he] at hwf ⊢
    exact ⟨f, hf, hp, rfl, hwf.file?_id hf⟩
  · rw [he] at hwf ⊢
    have hmem : ({ s with id := c.files.length + 1 } : FileRow) ∈
        (c.pushFile { s with id := c.files.length + 1 }).files := by simp
    exact ⟨_, hmem, rfl, rfl, hwf.file?_id hmem⟩

/-- A source is left out because its path belongs to another file or its declarations cannot be
read, or else what it declares is registered. -/
theorem addSource_cases {c : Catalog} (h : c.WellFormed) (s : Source) :
    ∃ f ∈ (c.addFile s).1.files, f.importPath = s.importPath ∧
      ((f.fullPath ≠ s.fullPath ∧
        c.addSource i s = ((c.addFile s).1, .error (.claimed s f.fullPath))) ∨
      (f.fullPath = s.fullPath ∧ ∃ reason, i.declarations f = .error reason ∧
        c.addSource i s = ((c.addFile s).1, .error (.unreadable reason))) ∨
      (f.fullPath = s.fullPath ∧ ∃ ds, i.declarations f = .ok ds ∧
        c.addSource i s = (((c.addFile s).1.declare f.id f.importPath ds).1,
          .ok ((c.addFile s).1.declare f.id f.importPath ds).2))) := by
  obtain ⟨f, hf, hp, hid, hrow⟩ := exists_row_of_addFile h s
  refine ⟨f, hf, hp, ?_⟩
  by_cases hfull : f.fullPath = s.fullPath
  · cases hd : i.declarations f with
    | error reason =>
      exact .inr (.inl ⟨hfull, reason, rfl, by simp [addSource, hid, hrow, hfull, hd]⟩)
    | ok ds => exact .inr (.inr ⟨hfull, ds, rfl, by simp [addSource, hid, hrow, hfull, hd]⟩)
  · exact .inl ⟨hfull, by simp [addSource, hid, hrow, hfull]⟩

/-- The symbols that registering a source discovers. -/
def foundIn (c : Catalog) (s : Source) : List (Discovered σ) :=
  (c.addSource i s).2.toOption.getD []

theorem files_addSource {c : Catalog} (h : c.WellFormed) (s : Source) :
    (c.addSource i s).1.files = (c.addFile s).1.files := by
  obtain ⟨f, -, -, ⟨-, he⟩ | ⟨-, reason, -, he⟩ | ⟨-, ds, -, he⟩⟩ := addSource_cases i h s
  · rw [he]
  · rw [he]
  · obtain ⟨rows, hd⟩ := declared_declare (c.addFile s).1 f.id f.importPath ds
    rw [he]
    exact hd.files

theorem prefix_files_addSource {c : Catalog} (h : c.WellFormed) (s : Source) :
    c.files <+: (c.addSource i s).1.files := by
  rw [files_addSource i h]
  rcases c.addFile_cases s with ⟨f, -, -, he⟩ | ⟨-, he⟩
  · rw [he]
  · rw [he]
    exact List.prefix_append _ _

theorem prefix_entities_addSource {c : Catalog} (h : c.WellFormed) (s : Source) :
    c.entities <+: (c.addSource i s).1.entities := by
  obtain ⟨f, -, -, ⟨-, he⟩ | ⟨-, reason, -, he⟩ | ⟨-, ds, -, he⟩⟩ := addSource_cases i h s
  · rw [he, entities_addFile]
  · rw [he, entities_addFile]
  · obtain ⟨rows, hd⟩ := declared_declare (c.addFile s).1 f.id f.importPath ds
    rw [he, hd.entities, entities_addFile]
    exact List.prefix_append _ _

/-! ## Registering sources in order -/

/-- The catalog after registering sources from the start. -/
def registered (sources : List Source) : Catalog :=
  (empty.addSources i sources).1

theorem addSources_concat (c : Catalog) (sources : List Source) (s : Source) :
    (c.addSources i (sources ++ [s])).1 = ((c.addSources i sources).1.addSource i s).1 ∧
    (c.addSources i (sources ++ [s])).2.1 =
      (c.addSources i sources).2.1 ++ (c.addSources i sources).1.foundIn i s := by
  induction sources generalizing c with
  | nil =>
    simp only [List.nil_append, addSources, foundIn]
    rcases c.addSource i s with ⟨c', e | found⟩ <;> simp [Except.toOption]
  | cons t sources ih =>
    simp only [List.cons_append, addSources]
    rcases c.addSource i t with ⟨c', e | found⟩
    · simpa using ih c'
    · simp [ih c']

theorem registered_concat (sources : List Source) (s : Source) :
    registered i (sources ++ [s]) = ((registered i sources).addSource i s).1 :=
  (addSources_concat i empty sources s).1

theorem discovered_concat (sources : List Source) (s : Source) :
    discovered i (sources ++ [s]) = discovered i sources ++ (registered i sources).foundIn i s :=
  (addSources_concat i empty sources s).2

theorem wellFormed_registered (sources : List Source) : (registered i sources).WellFormed :=
  (registered_addSources i sources).wellFormed

theorem files_subset_registered (sources rest : List Source) :
    (registered i sources).files ⊆ (registered i (sources ++ rest)).files := by
  induction rest using List.reverseRecOn with
  | nil => simp
  | append_singleton rest s ih =>
    rw [← List.append_assoc, registered_concat]
    exact fun f hf => (prefix_files_addSource i (wellFormed_registered i _) s).subset (ih hf)

/-! ## What is left out -/

/-- A source is left out if its import path belongs to another file, or its declarations cannot
be read. -/
def LeftOut (sources : List Source) (s : Source) : Prop :=
  ∃ f ∈ (registered i sources).files, f.importPath = s.importPath ∧
    (f.fullPath ≠ s.fullPath ∨ ∃ reason, i.declarations f = .error reason)

variable {i}

/-- The row under which a source is registered stays. -/
theorem mem_registered_of_addFile {before rest : List Source} {s : Source} {f : FileRow}
    (hf : f ∈ ((registered i before).addFile s).1.files) :
    f ∈ (registered i (before ++ s :: rest)).files := by
  rw [← files_addSource i (wellFormed_registered i before), ← registered_concat] at hf
  simpa using files_subset_registered i (before ++ [s]) rest hf

/-- There is one row for an import path. -/
theorem row_unique {sources : List Source} {f g : FileRow} (hf : f ∈ (registered i sources).files)
    (hg : g ∈ (registered i sources).files) (h : f.importPath = g.importPath) : f = g :=
  List.inj_on_of_nodup_map (wellFormed_registered i sources).paths hf hg h

/-- The sources that registration reports are those that are left out. -/
theorem addSource_eq_error_iff {before rest : List Source} {s : Source} :
    (∃ e, (registered i before).addSource i s = (((registered i before).addFile s).1, .error e)) ↔
      LeftOut i (before ++ s :: rest) s := by
  obtain ⟨f, hf, hp, hcases⟩ := addSource_cases i (wellFormed_registered i before) s
  constructor
  · rintro ⟨e, he⟩
    refine ⟨f, mem_registered_of_addFile hf, hp, ?_⟩
    rcases hcases with ⟨hfull, -⟩ | ⟨-, reason, hd, -⟩ | ⟨-, ds, -, hok⟩
    · exact .inl hfull
    · exact .inr ⟨reason, hd⟩
    · rw [hok] at he
      cases congrArg Prod.snd he
  · rintro ⟨g, hg, hgp, hwhy⟩
    obtain rfl := row_unique (mem_registered_of_addFile hf) hg (hp.trans hgp.symm)
    rcases hcases with ⟨-, he⟩ | ⟨-, reason, -, he⟩ | ⟨hfull, ds, hd, -⟩
    · exact ⟨_, he⟩
    · exact ⟨_, he⟩
    · rcases hwhy with hne | ⟨reason, hr⟩
      · exact absurd hfull hne
      · rw [hd] at hr
        cases hr

/-! ## A source that declares nothing -/

/-- If `s` is left out, registering `t` does the same when `s` is taken to declare nothing. -/
theorem addSource_blankFor {before rest : List Source} {s t : Source}
    (h : LeftOut i (before ++ t :: rest) s) :
    ((registered i before).addSource (i.blankFor s) t).1 = ((registered i before).addSource i t).1 ∧
    (registered i before).foundIn (i.blankFor s) t = (registered i before).foundIn i t := by
  obtain ⟨f, hf, hp, hid, hrow⟩ := exists_row_of_addFile (wellFormed_registered i before) t
  by_cases hs : f.fullPath = s.fullPath ∧ f.importPath = s.importPath
  · -- `f` is the file of `s`, so the reader fails on it
    obtain ⟨g, hg, hgp, hwhy⟩ := h
    obtain rfl := row_unique (mem_registered_of_addFile hf) hg (hs.2.trans hgp.symm)
    obtain ⟨reason, hd⟩ := hwhy.resolve_left (· hs.1)
    have hblank : (i.blankFor s).declarations f = .ok [] := if_pos hs
    by_cases hfull : f.fullPath = t.fullPath
    · simp [foundIn, addSource, hid, hrow, hfull, hd, hblank, declare, declareAll, Except.toOption]
    · simp [foundIn, addSource, hid, hrow, hfull]
  · have hsame : (i.blankFor s).declarations f = i.declarations f := if_neg hs
    simp [foundIn, addSource, hid, hrow, hsame]

/-- If `s` is left out, registration is in the same state after each source when `s` is taken to
declare nothing. -/
theorem registered_blankFor {sources : List Source} (rest : List Source) {s : Source}
    (h : LeftOut i (sources ++ rest) s) :
    registered (i.blankFor s) sources = registered i sources ∧
    discovered (i.blankFor s) sources = discovered i sources := by
  induction sources using List.reverseRecOn generalizing rest with
  | nil => exact ⟨rfl, rfl⟩
  | append_singleton sources t ih =>
    rw [List.append_assoc, List.singleton_append] at h
    obtain ⟨hreg, hdis⟩ := ih _ h
    obtain ⟨hone, hfound⟩ := addSource_blankFor h
    rw [registered_concat, registered_concat, discovered_concat, discovered_concat, hreg, hdis,
      hone, hfound]
    exact ⟨rfl, rfl⟩

/-- Resolving reads no declarations. -/
theorem addCallsOfAll_blankFor (s : Source) (c : Catalog) (ds : List (Discovered σ)) :
    addCallsOfAll (i.blankFor s) o c ds = addCallsOfAll i o c ds := by
  induction ds generalizing c with
  | nil => rfl
  | cons d ds ih => simp only [addCallsOfAll, SourceReader.blankFor, ← ih]

theorem analyzed_blankFor {sources : List Source} {s : Source} (h : LeftOut i sources s) :
    analyzed (i.blankFor s) o sources = analyzed i o sources := by
  obtain ⟨hreg, hdis⟩ := registered_blankFor [] (by simpa using h)
  have hcatalog : (empty.addSources (i.blankFor s) sources).1 = (empty.addSources i sources).1 :=
    hreg
  rw [analyzed, analyzed, addCallsOfAll_blankFor, hcatalog, hdis]

/-! ## Contributions -/

/-- What comes from a source : rows of entities, the symbols among them, and the rows of
their calls. -/
structure Contribution (σ : Type) where
  entities : List EntityRow := []
  found : List (Discovered σ) := []
  calls : List CallRow := []

/-- The rows of the calls of discovered symbols. -/
def callsFrom (c : Catalog) (found : List (Discovered σ)) : List CallRow :=
  c.calls.filter fun r => r.caller ∈ found.map (·.entityId)

variable (i)

/-- What the source at a place contributes to an analysis. -/
def contribution (sources : List Source) (place : Nat) : Contribution σ :=
  let found := (discovered i (sources.take (place + 1))).drop
    (discovered i (sources.take place)).length
  { entities := (registered i (sources.take (place + 1))).entities.drop
      (registered i (sources.take place)).entities.length
    found
    calls := (analyzed i o sources).callsFrom found }

/-- A list that grows step by step is what the steps add. -/
theorem eq_flatMap_added {α : Type} {l : Nat → List α} (h0 : l 0 = []) :
    (n : Nat) → (∀ k < n, l k <+: l (k + 1)) →
      l n = (List.range n).flatMap fun k => (l (k + 1)).drop (l k).length
  | 0, _ => h0
  | n + 1, h => by
    rw [List.range_succ, List.flatMap_append, List.flatMap_singleton,
      ← eq_flatMap_added h0 n fun k hk => h k (by omega)]
    exact (List.prefix_iff_eq_append.mp (h n (by omega))).symm

/-- The entities are those that the sources contribute, in order. -/
theorem entities_eq_contributed (sources : List Source) :
    (registered i sources).entities =
      (List.range sources.length).flatMap fun place =>
        (contribution i o sources place).entities := by
  have hgrows : ∀ k < sources.length, (registered i (sources.take k)).entities <+:
      (registered i (sources.take (k + 1))).entities := fun k hk => by
    rw [List.take_succ_eq_append_getElem hk, registered_concat]
    exact prefix_entities_addSource i (wellFormed_registered i _) _
  have hall := eq_flatMap_added rfl sources.length hgrows
  rwa [List.take_length] at hall

/-- The symbols are those that the sources contribute, in order. -/
theorem discovered_eq_contributed (sources : List Source) :
    discovered i sources =
      (List.range sources.length).flatMap fun place => (contribution i o sources place).found := by
  have hgrows : ∀ k < sources.length,
      discovered i (sources.take k) <+: discovered i (sources.take (k + 1)) := fun k hk => by
    rw [List.take_succ_eq_append_getElem hk, discovered_concat]
    exact List.prefix_append _ _
  have hall := eq_flatMap_added rfl sources.length hgrows
  rwa [List.take_length] at hall

/-- Every call comes from a source. -/
theorem exists_contribution_of_call {sources : List Source} {r : CallRow}
    (hr : r ∈ (analyzed i o sources).calls) :
    ∃ place < sources.length, r ∈ (contribution i o sources place).calls := by
  obtain ⟨hcaller, -⟩ := (resolvedAs_analyzed i o sources).callers r hr
  obtain ⟨d, hd, hid⟩ := List.mem_map.mp hcaller
  rw [discovered_eq_contributed i o, List.mem_flatMap] at hd
  obtain ⟨place, hplace, hd⟩ := hd
  refine ⟨place, List.mem_range.mp hplace, List.mem_filter.mpr ⟨hr, ?_⟩⟩
  exact decide_eq_true (List.mem_map.mpr ⟨d, hd, hid⟩)

variable {i}

/-- A source that is left out contributes nothing. -/
theorem contribution_of_leftOut {sources : List Source} {place : Nat} {s : Source}
    (hs : sources[place]? = some s) (h : LeftOut i sources s) :
    contribution i o sources place = {} := by
  obtain ⟨hlt, hget⟩ := List.getElem?_eq_some_iff.mp hs
  have hsplit : sources = sources.take place ++ s :: sources.drop (place + 1) := by
    rw [← hget, List.getElem_cons_drop, List.take_append_drop]
  have htake : sources.take (place + 1) = sources.take place ++ [s] := by
    rw [List.take_succ_eq_append_getElem hlt, hget]
  rw [hsplit] at h
  obtain ⟨e, he⟩ := addSource_eq_error_iff.mpr h
  simp only [contribution, htake, registered_concat, discovered_concat, foundIn, he]
  simp [callsFrom, Except.toOption]

/-- What each source contributes does not change when a source that is left out is taken to
declare nothing. -/
theorem contribution_blankFor {sources : List Source} {s : Source} (h : LeftOut i sources s)
    (place : Nat) :
    contribution (i.blankFor s) o sources place = contribution i o sources place := by
  have hstate : ∀ n, registered (i.blankFor s) (sources.take n) = registered i (sources.take n) ∧
      discovered (i.blankFor s) (sources.take n) = discovered i (sources.take n) := fun n =>
    registered_blankFor (sources.drop n) (by rwa [List.take_append_drop])
  simp only [contribution, (hstate place).1, (hstate place).2, (hstate (place + 1)).1,
    (hstate (place + 1)).2, analyzed_blankFor o h]

end Catalog

end CallAtlas
