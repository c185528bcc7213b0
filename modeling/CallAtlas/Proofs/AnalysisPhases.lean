import CallAtlas.Proofs.LeftOutSources

/-!
# The phases of an analysis

An analysis commits three catalogs one after another : the one without rows, the one that its
sources declare, and the same with the calls (`Store.analyze_ok`). Like every run of commits it
stops at the first refusal, and what is committed then is the last catalog before it
(`Recorded.commits_cases`). `Store.Outcome` lists how an analysis can end, with the writes that it
asked the backend for.

So a refusal leaves whole phases only, and nothing but a refusal or the lack of sources makes an
analysis fail; in particular no reader does (`Store.LeavesWholePhases`). A source that cannot be
read, or whose path is taken, is left out alone (`Store.LeavesOutAlone`).
-/

namespace CallAtlas

variable {β σ : Type} [Backend β]

/-! ## Runs of commits -/

namespace Store

/-- Commit catalogs one after another, up to the first that is refused. The refusal comes with the
number of the commits before it. -/
def commits (s : Store β) : List Catalog → Store β × Option (Nat × StoreError)
  | [] => (s, none)
  | c :: cs =>
    match s.commit c with
    | (t, .error e) => (t, some (0, e))
    | (t, .ok ()) => ((t.commits cs).1, (t.commits cs).2.map fun (n, e) => (n + 1, e))

theorem commits_forget (s : Store (Recorded β)) (cs : List Catalog) :
    s.forget.commits cs = ((s.commits cs).1.forget, (s.commits cs).2) := by
  induction cs generalizing s with
  | nil => rfl
  | cons c cs ih =>
    rw [commits, commits, commit_forget]
    rcases s.commit c with ⟨t, e | u⟩
    · rfl
    · simp only [ih t]

/-- A run of commits keeps the record and the kept catalog in step. -/
theorem settled_commits {K : Keeping β} {c₀ : Catalog} {s : Store (Recorded β)}
    (h : Session.Settled K c₀ (.opened s)) (cs : List Catalog) :
    Session.Settled K c₀ (.opened (s.commits cs).1) := by
  induction cs generalizing s with
  | nil => exact h
  | cons c cs ih =>
    have hc := Session.settled_commit h c
    rw [commits]
    cases hcommit : s.commit c with
    | mk t r =>
      rw [hcommit] at hc
      cases r with
      | error e => exact hc
      | ok u => exact ih hc

end Store

/-- A run of commits is taken whole, or it stops at a refusal. What is committed then is the last
catalog that was taken, or the one before the run if none was. -/
theorem Recorded.commits_cases (s : Store (Recorded β)) (cs : List Catalog) :
    ((s.commits cs).2 = none ∧
      (s.commits cs).1.backend.writes = s.backend.writes ++ cs.map (·, true) ∧
      (s.commits cs).1.committed = cs.getLast?.getD s.committed) ∨
    (∃ before c after e, cs = before ++ c :: after ∧ (s.commits cs).2 = some (before.length, e) ∧
      (s.commits cs).1.backend.writes = s.backend.writes ++ before.map (·, true) ++ [(c, false)] ∧
      (s.commits cs).1.committed = before.getLast?.getD s.committed) := by
  induction cs generalizing s with
  | nil => exact .inl ⟨rfl, by simp [Store.commits], rfl⟩
  | cons c cs ih =>
    rcases commit_cases s c with ⟨b, -, hc⟩ | ⟨b, e, -, hc⟩
    · simp only [Store.commits, hc]
      rcases ih ⟨⟨b, s.backend.writes ++ [(c, true)]⟩, c⟩ with
        ⟨hr, hw, hlast⟩ | ⟨before, c', after, e, rfl, hr, hw, hlast⟩
      · refine .inl ⟨by rw [hr]; rfl, by simp [hw], ?_⟩
        rw [hlast, List.getLast?_cons, Option.getD_some]
      · refine .inr ⟨c :: before, c', after, e, rfl, by rw [hr]; rfl, by simp [hw], ?_⟩
        rw [hlast, List.getLast?_cons, Option.getD_some]
    · refine .inr ⟨[], c, cs, e, rfl, ?_⟩
      simp [Store.commits, hc]

/-! ## An analysis is a run of commits -/

namespace Catalog

variable (i : SourceReader σ) (o : ResolveOptions) (sources : List Source)

/-- The warnings of an analysis about sources. -/
def sourceWarnings : List Warning :=
  (empty.addSources i sources).2.2

/-- What resolving the discovered symbols gives. -/
def resolution : Catalog × ResolveStats × List Warning :=
  (registered i sources).addCallsOfAll i o (discovered i sources)

/-- The catalogs that an analysis commits. -/
def phases : List Catalog :=
  [empty, registered i sources, analyzed i o sources]

/-- The report of an analysis that succeeds. -/
def analysisReport : AnalysisReport where
  files := (analyzed i o sources).files.length
  failedFiles := (sourceWarnings i sources).length
  entities := (analyzed i o sources).entities.length
  resolve := (resolution i o sources).2.1

/-- The warnings and the answer of an analysis, by the commit that is refused. -/
def answer : Option (Nat × StoreError) → List Warning × Except AnalysisError AnalysisReport
  | none =>
    (sourceWarnings i sources ++ (resolution i o sources).2.2, .ok (analysisReport i o sources))
  | some (0, e) => ([], .error (.clearing e))
  | some (1, e) => (sourceWarnings i sources, .error (.cataloging e))
  | some (_, e) =>
    (sourceWarnings i sources ++ (resolution i o sources).2.2, .error (.resolution e))

theorem catalogPhase_empty : catalogPhase i sources empty =
    (registered i sources, sourceWarnings i sources,
      .ok (discovered i sources, (sourceWarnings i sources).length)) :=
  rfl

theorem resolvePhase_registered : resolvePhase i o (discovered i sources) (registered i sources) =
    (analyzed i o sources, (resolution i o sources).2.2, .ok (resolution i o sources).2.1) :=
  rfl

end Catalog

namespace Store

open Catalog (registered analyzed phases answer analysisReport)

variable (s : Store β) (found : Except String (List Source)) (i : SourceReader σ)
  (o : ResolveOptions)

/-- An analysis commits its catalogs, and answers by the commit that is refused. -/
theorem analyze_ok (sources : List Source) : s.analyze (.ok sources) i o =
    ((s.commits (phases i o sources)).1,
      answer i o sources (s.commits (phases i o sources)).2) := by
  rw [analyze, clear, phases]
  rcases s.commit_cases .empty with ⟨b₁, -, h₁⟩ | ⟨b₁, e, -, h₁⟩
  · simp only [commits, h₁, transaction, Catalog.catalogPhase_empty]
    rcases commit_cases ⟨b₁, .empty⟩ (registered i sources) with ⟨b₂, -, h₂⟩ | ⟨b₂, e, -, h₂⟩
    · simp only [h₂, Catalog.resolvePhase_registered]
      rcases commit_cases ⟨b₂, registered i sources⟩ (analyzed i o sources) with
        ⟨b₃, -, h₃⟩ | ⟨b₃, e, -, h₃⟩
      · simp only [h₃]
        rfl
      · simp only [h₃]
        rfl
    · simp only [h₂]
      rfl
  · simp only [commits, h₁]
    rfl

/-! ## How an analysis ends -/

/-- The store with a record of its writes from now on. -/
def recorded {β : Type} (s : Store β) : Store (Recorded β) :=
  ⟨⟨s.backend, []⟩, s.committed⟩

/-- The writes that an analysis asks the backend for, and whether they are taken. -/
def analysisWrites : List (Catalog × Bool) :=
  (s.recorded.analyze found i o).1.backend.writes

/-- Recording the writes of an analysis changes nothing else. -/
theorem analyze_eq_forget : s.analyze found i o =
    ((s.recorded.analyze found i o).1.forget, (s.recorded.analyze found i o).2) := by
  cases found with
  | error reason => rfl
  | ok sources =>
    have hforget := s.recorded.commits_forget (phases i o sources)
    have hself : s.recorded.forget = s := rfl
    rw [hself] at hforget
    rw [analyze_ok, analyze_ok, hforget]

/-- The ends of an analysis : the writes that it asks for, what is committed then, and
its answer. -/
inductive Outcome (s : Store β) (found : Except String (List Source)) (i : SourceReader σ)
    (o : ResolveOptions) :
    List (Catalog × Bool) → Catalog → Except AnalysisError AnalysisReport → Prop where
  | noSources {reason : String} : found = .error reason →
      Outcome s found i o [] s.committed (.error (.discovery reason))
  | clearRefused {sources : List Source} {e : StoreError} : found = .ok sources →
      Outcome s found i o [(.empty, false)] s.committed (.error (.clearing e))
  | catalogRefused {sources : List Source} {e : StoreError} : found = .ok sources →
      Outcome s found i o [(.empty, true), (registered i sources, false)] .empty
        (.error (.cataloging e))
  | resolveRefused {sources : List Source} {e : StoreError} : found = .ok sources →
      Outcome s found i o
        [(.empty, true), (registered i sources, true), (analyzed i o sources, false)]
        (registered i sources) (.error (.resolution e))
  | done {sources : List Source} : found = .ok sources →
      Outcome s found i o
        [(.empty, true), (registered i sources, true), (analyzed i o sources, true)]
        (analyzed i o sources) (.ok (analysisReport i o sources))

namespace Outcome

variable {s found i o} {w : List (Catalog × Bool)} {c c' : Catalog}
  {r : Except AnalysisError AnalysisReport}
  (h : Outcome s found i o w c r)
omit [Backend β]
include h

theorem length_le : w.length ≤ 3 := by
  cases h <;> simp

theorem committed_of_clearRefused (hw : w[0]? = some (c', false)) : c = s.committed := by
  cases h with
  | noSources _ | clearRefused _ => rfl
  | catalogRefused _ | resolveRefused _ | done _ => simp at hw

theorem committed_of_catalogRefused (hw : w[1]? = some (c', false)) : c = .empty := by
  cases h with
  | catalogRefused _ => rfl
  | noSources _ | clearRefused _ | resolveRefused _ | done _ => simp at hw

theorem committed_of_resolveRefused {sources : List Source} (hfound : found = .ok sources)
    (hw : w[2]? = some (c', false)) : c = registered i sources := by
  cases h with
  | resolveRefused h =>
    obtain rfl := Except.ok.inj (hfound.symm.trans h)
    rfl
  | noSources _ | clearRefused _ | catalogRefused _ | done _ => simp at hw

theorem ok_of_taken {sources : List Source} (hfound : found = .ok sources)
    (hw : ∀ x ∈ w, x.2 = true) :
    r = .ok (analysisReport i o sources) ∧ c = analyzed i o sources := by
  cases h with
  | done h =>
    obtain rfl := Except.ok.inj (hfound.symm.trans h)
    exact ⟨rfl, rfl⟩
  | noSources h => cases hfound.symm.trans h
  | clearRefused _ | catalogRefused _ | resolveRefused _ => simp at hw

theorem wellFormed_of_mem {x : Catalog × Bool} (hx : x ∈ w) : x.1.WellFormed := by
  cases h
  all_goals simp only [List.mem_cons, List.not_mem_nil, or_false] at hx
  case clearRefused =>
    obtain rfl := hx
    exact Catalog.wellFormed_empty
  case catalogRefused =>
    rcases hx with rfl | rfl
    · exact Catalog.wellFormed_empty
    · exact Catalog.wellFormed_registered ..
  all_goals
    rcases hx with rfl | rfl | rfl
    · exact Catalog.wellFormed_empty
    · exact Catalog.wellFormed_registered ..
    · exact Catalog.wellFormed_analyzed ..

theorem error_of_refused {x : Catalog × Bool} (hx : x ∈ w) (hrefused : x.2 = false) :
    ∃ e, r = .error e := by
  cases h with
  | done _ =>
    have htaken : x.2 = true := by
      simp only [List.mem_cons, List.not_mem_nil, or_false] at hx
      rcases hx with rfl | rfl | rfl <;> rfl
    rw [htaken] at hrefused
    cases hrefused
  | noSources _ | clearRefused _ | catalogRefused _ | resolveRefused _ => exact ⟨_, rfl⟩

end Outcome

theorem outcome_analyze :
    Outcome s found i o (s.analysisWrites found i o) (s.analyze found i o).1.committed
    (s.analyze found i o).2.2 := by
  rw [analyze_eq_forget, analysisWrites]
  cases found with
  | error reason => exact .noSources rfl
  | ok sources =>
    rw [analyze_ok]
    show Outcome s (.ok sources) i o _ (s.recorded.commits (phases i o sources)).1.committed _
    rcases Recorded.commits_cases s.recorded (phases i o sources) with
      ⟨hr, hw, hlast⟩ | ⟨before, c, after, e, hsplit, hr, hw, hlast⟩
    · rw [hr, hw, hlast]
      exact .done rfl
    · rw [hr, hw, hlast]
      -- the refused catalog is the first, the second or the third
      match before, hsplit with
      | [], hsplit =>
        obtain ⟨rfl, -⟩ := List.cons.inj hsplit
        exact .clearRefused rfl
      | [_], hsplit =>
        simp only [phases, List.cons_append, List.nil_append, List.cons.injEq] at hsplit
        obtain ⟨rfl, rfl, -⟩ := hsplit
        exact .catalogRefused rfl
      | [_, _], hsplit =>
        simp only [phases, List.cons_append, List.nil_append, List.cons.injEq] at hsplit
        obtain ⟨rfl, rfl, rfl, -⟩ := hsplit
        exact .resolveRefused rfl
      | _ :: _ :: _ :: _, hsplit => simp [phases] at hsplit

/-- A kept catalog that is the committed one before an analysis is the committed one after it. -/
theorem committed_eq_kept_analyze (K : Keeping β) (h : s.committed = K.kept s.backend)
    (hfits : ∀ c, (c, true) ∈ s.analysisWrites found i o → c.WellFormed → K.fits c) :
    (s.analyze found i o).1.committed = K.kept (s.analyze found i o).1.backend := by
  replace hfits := fun c hc => hfits c hc ((s.outcome_analyze found i o).wellFormed_of_mem hc)
  rw [analyze_eq_forget]
  cases found with
  | error reason => exact h
  | ok sources =>
    have hstart : Session.Settled K s.committed (.opened s.recorded) :=
      fun _ => Session.agrees_opened h.symm h
    rw [analysisWrites, analyze_ok] at hfits
    rw [analyze_ok]
    exact (settled_commits hstart (phases i o sources) hfits).committed _ rfl

/-- An analysis leaves whole phases in a store, and fails only without sources or by a refusal. -/
structure LeavesWholePhases : Prop where
  /-- The recorded writes are those of the analysis. -/
  recording : s.analyze found i o =
    ((s.recorded.analyze found i o).1.forget, (s.recorded.analyze found i o).2)
  atMostThree : (s.analysisWrites found i o).length ≤ 3
  noSources : ∀ reason, found = .error reason →
    s.analysisWrites found i o = [] ∧ (s.analyze found i o).1 = s
  clearRefused : ∀ c, (s.analysisWrites found i o)[0]? = some (c, false) →
    (s.analyze found i o).1.committed = s.committed
  catalogRefused : ∀ c, (s.analysisWrites found i o)[1]? = some (c, false) →
    (s.analyze found i o).1.committed = .empty
  resolveRefused : ∀ sources, found = .ok sources → ∀ c,
    (s.analysisWrites found i o)[2]? = some (c, false) →
      (s.analyze found i o).1.committed.files = (analyzed i o sources).files ∧
      (s.analyze found i o).1.committed.entities = (analyzed i o sources).entities ∧
      (s.analyze found i o).1.committed.calls = []
  /-- The answer is a report if there are sources and no write is refused, whatever the
  reader does. -/
  succeeds : ∀ sources, found = .ok sources → (∀ x ∈ s.analysisWrites found i o, x.2 = true) →
    (s.analyze found i o).2.2 = .ok (analysisReport i o sources) ∧
    (s.analyze found i o).1.committed = analyzed i o sources
  fails : ∀ x ∈ s.analysisWrites found i o, x.2 = false → ∃ e, (s.analyze found i o).2.2 = .error e
  /-- What a backend keeps is what is committed, after the analysis as before it. For a database
  this is so as long as the ids are numbers of 64 bits. -/
  kept : ∀ K : Keeping β, s.committed = K.kept s.backend →
    (∀ c, (c, true) ∈ s.analysisWrites found i o → c.WellFormed → K.fits c) →
    (s.analyze found i o).1.committed = K.kept (s.analyze found i o).1.backend

theorem leavesWholePhases : s.LeavesWholePhases found i o where
  recording := s.analyze_eq_forget found i o
  atMostThree := (s.outcome_analyze found i o).length_le
  noSources reason h := by
    subst h
    exact ⟨rfl, rfl⟩
  clearRefused c hc := (s.outcome_analyze found i o).committed_of_clearRefused hc
  catalogRefused c hc := (s.outcome_analyze found i o).committed_of_catalogRefused hc
  resolveRefused sources h c hc := by
    obtain ⟨hfiles, hentities⟩ := Catalog.registered_analyzed i o sources
    rw [(s.outcome_analyze found i o).committed_of_resolveRefused h hc, hfiles, hentities]
    exact ⟨rfl, rfl, (Catalog.registered_addSources i sources).calls⟩
  succeeds sources h htaken := (s.outcome_analyze found i o).ok_of_taken h htaken
  fails x hx hrefused := (s.outcome_analyze found i o).error_of_refused hx hrefused
  kept := s.committed_eq_kept_analyze found i o

/-! ## Sources that are left out -/

open Catalog (contribution LeftOut)

/-- A source that is left out contributes nothing to an analysis of a store, and changes
nothing else : the other sources contribute, and the store holds, what they would if the source
declared nothing. -/
structure LeavesOutAlone (sources : List Source) : Prop where
  /-- All rows are contributed by sources. -/
  entities : (analyzed i o sources).entities =
    (List.range sources.length).flatMap fun place => (contribution i o sources place).entities
  calls : ∀ r ∈ (analyzed i o sources).calls,
    ∃ place < sources.length, r ∈ (contribution i o sources place).calls
  nothing : ∀ place src, sources[place]? = some src → LeftOut i sources src →
    contribution i o sources place = {}
  others : ∀ src, LeftOut i sources src → ∀ place,
    contribution (i.blankFor src) o sources place = contribution i o sources place
  store : ∀ src, LeftOut i sources src →
    (s.analyze (.ok sources) (i.blankFor src) o).1 = (s.analyze (.ok sources) i o).1
  /-- The answer is the same but for the number of failed files. -/
  report : ∀ src, LeftOut i sources src →
    (s.analyze (.ok sources) (i.blankFor src) o).2.2.map ({ · with failedFiles := 0 }) =
      (s.analyze (.ok sources) i o).2.2.map ({ · with failedFiles := 0 })

variable {i} in
theorem phases_blankFor {sources : List Source} {src : Source} (h : LeftOut i sources src) :
    phases (i.blankFor src) o sources = phases i o sources := by
  obtain ⟨hregistered, -⟩ := Catalog.registered_blankFor [] (by simpa using h)
  rw [phases, phases, hregistered, Catalog.analyzed_blankFor o h]

variable {i} in
theorem answer_blankFor {sources : List Source} {src : Source} (h : LeftOut i sources src)
    (refusal : Option (Nat × StoreError)) :
    (answer (i.blankFor src) o sources refusal).2.map ({ · with failedFiles := 0 }) =
      (answer i o sources refusal).2.map ({ · with failedFiles := 0 }) := by
  obtain ⟨hregistered, hdiscovered⟩ := Catalog.registered_blankFor [] (by simpa using h)
  match refusal with
  | none =>
    simp only [answer, analysisReport, Catalog.resolution, hregistered, hdiscovered,
      Catalog.addCallsOfAll_blankFor, Catalog.analyzed_blankFor o h, Except.map]
  | some (0, e) | some (1, e) | some (_ + 2, e) => rfl

theorem leavesOutAlone (sources : List Source) : s.LeavesOutAlone i o sources where
  entities := by
    rw [(Catalog.registered_analyzed i o sources).2]
    exact Catalog.entities_eq_contributed i o sources
  calls _ hr := Catalog.exists_contribution_of_call i o hr
  nothing _ _ hs h := Catalog.contribution_of_leftOut o hs h
  others _ h place := Catalog.contribution_blankFor o h place
  store src h := by rw [analyze_ok, analyze_ok, phases_blankFor o h]
  report src h := by rw [analyze_ok, analyze_ok, phases_blankFor o h, answer_blankFor o h]

/-- **A failed analysis leaves whole phases.** It asks for three writes at most, a refusal leaves
what was committed by the phases before it, and without a refusal there is a report if there are
sources. A source that cannot be read, or whose path is taken, contributes nothing and changes
nothing else. -/
theorem analyze_leaves_whole_phases :
    s.LeavesWholePhases found i o ∧ ∀ sources, s.LeavesOutAlone i o sources :=
  ⟨s.leavesWholePhases found i o, s.leavesOutAlone i o⟩

end Store

end CallAtlas
