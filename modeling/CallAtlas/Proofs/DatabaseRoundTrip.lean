import CallAtlas.CommandLine.Run
import CallAtlas.Proofs.AnalyzedCalls

/-!
# Catalogs in a database

A database gives a catalog back with the last row of each id, by ascending id, whatever it held
before (`Database.load_persist`). The tables of a well-formed catalog are numbered in order, so it
comes back as it was, with its indexes. The command line therefore answers from the stored catalog
as it does right after the analysis (`CommandLine.AnswersAgain`).
-/

namespace CallAtlas

namespace CommandLine

/-! ## What is produced -/

/-- What is seen of a result, its warnings apart. -/
def answer (r : Result) : Nat × String × Option String :=
  (r.code, r.output, r.complaint)

/-- What is produced from a catalog. -/
def produced (a : Arguments) (cfg : Config) (fs : FileSystem) (c : Catalog) :
    FileSystem × Except Failure String :=
  let (p, cfg, _) := select a cfg c.project
  let (fs, _, r) := produce a cfg fs c p
  (fs, r)

/-- What is seen of what is produced. -/
def answerOf : Except Failure String → Nat × String × Option String
  | .ok output => (0, output, none)
  | .error f => (1, "", some ("Error: " ++ f.headline))

variable {a : Arguments} {cfg : Config} {fs : FileSystem}

/-- Once the catalog is up to date, all that follows is made from it. -/
theorem work_of_refresh {β : Type} [Backend β] {b : β} {s s' : Store β} {w : List Warning}
    (hopen : Store.openWith b = .ok s) (h : refresh a cfg fs s = (s', w, .ok ())) :
    (work a cfg fs b).1 = (produced a cfg fs s'.committed).1 ∧ (work a cfg fs b).2.1 = s'.backend ∧
      answer (work a cfg fs b).2.2 = answerOf (produced a cfg fs s'.committed).2 := by
  simp only [work, hopen, h, produced]
  rcases select a cfg s'.committed.project with ⟨p, cfg', more⟩
  rcases produce a cfg' fs s'.committed p with ⟨fs', last, f | output⟩
  · simp [answer, answerOf, failed]
  · simp [answer, answerOf]

/-- Without an output file and images, the files do not matter to the output. -/
theorem produced_of_files (a : Arguments) (cfg : Config) (hfile : a.outFile = none)
    (hmode : a.mode ≠ .perEntityBatch) (fs fs' : FileSystem) (c : Catalog) :
    (produced a cfg fs' c).2 = (produced a cfg fs c).2 := by
  simp only [produced, produce]
  cases hm : a.mode with
  | perEntityBatch => exact absurd hm hmode
  | graph => simp [hfile, deliverGraph, deliver]
  | textSummary => simp [hfile, deliver]
  | entityTable => simp [hfile, deliver]
  | json => simp [hfile, deliver]

/-! ## Answering again -/

/-- An analysis by the command line commits a well-formed catalog that the backend has kept. -/
theorem committed_refresh {β : Type} [Backend β] {s : Store β} (ha : a.noAnalyze = false)
    (h : (refresh a cfg fs s).2.2 = .ok ()) : (refresh a cfg fs s).1.committed.WellFormed ∧
      ∃ b, Backend.persist b (refresh a cfg fs s).1.committed =
        ((refresh a cfg fs s).1.backend, .ok ()) := by
  simp only [refresh, ha] at h ⊢
  generalize (((Discovery.new fs a.target a.package).sources fs).map (·.1)).mapError (·.message) =
    sources at h ⊢
  cases sources with
  | error reason => simp [Store.analyze] at h
  | ok sources =>
    rcases hs : s.analyze (.ok sources) (Code.sourceReader fs) cfg.resolve with ⟨s', w, e | report⟩
    · simp [hs] at h
    · obtain ⟨hcommitted, hb⟩ := s.committed_analyze sources (Code.sourceReader fs) cfg.resolve
        (congrArg (·.2.2) hs)
      simp only [hs] at hcommitted hb
      simp only [Bool.false_eq_true, if_false]
      rw [hcommitted]
      exact ⟨Catalog.wellFormed_analyzed .., hb⟩

/-- A stored catalog is used as it is. -/
theorem refresh_of_noAnalyze {β : Type} [Backend β] (a : Arguments) (cfg : Config) (fs : FileSystem)
    (ha : a.noAnalyze = true) (s : Store β) : ∃ w, refresh a cfg fs s = (s, w, .ok ()) :=
  ⟨_, by simp only [refresh, ha, if_true]; rfl⟩

/-- After a run that analyses, the database holds its catalog. Asked for any output without an
analysis, the command line then leaves the same files and database and gives the same answer as if
it analysed. For text without an output file this is so in any file system, for instance after the
sources are gone. -/
structure AnswersAgain (a : Arguments) (cfg : Config) (fs : FileSystem) (d : Database) : Prop where
  catalog : Backend.load (work a cfg fs d).2.1 = .ok (refresh a cfg fs ⟨d, d.catalog⟩).1.committed
  files : ∀ m, (work { a with mode := m, noAnalyze := true } cfg fs (work a cfg fs d).2.1).1 =
    (work { a with mode := m } cfg fs d).1
  database : ∀ m, (work { a with mode := m, noAnalyze := true } cfg fs (work a cfg fs d).2.1).2.1 =
    (work { a with mode := m } cfg fs d).2.1
  same : ∀ m,
    answer (work { a with mode := m, noAnalyze := true } cfg fs (work a cfg fs d).2.1).2.2 =
    answer (work { a with mode := m } cfg fs d).2.2
  anywhere : ∀ m fs', a.outFile = none → m ≠ .perEntityBatch →
    answer (work { a with mode := m, noAnalyze := true } cfg fs' (work a cfg fs d).2.1).2.2 =
      answer (work { a with mode := m } cfg fs d).2.2

theorem answersAgain {d : Database} (ha : a.noAnalyze = false)
    (hok : (refresh a cfg fs ⟨d, d.catalog⟩).2.2 = .ok ())
    (hfit : (refresh a cfg fs ⟨d, d.catalog⟩).1.committed.FitsWords) : AnswersAgain a cfg fs d := by
  obtain ⟨hwf, b, hb⟩ := committed_refresh ha hok
  rcases hr : refresh a cfg fs ⟨d, d.catalog⟩ with ⟨s, w, e | u⟩
  · simp [hr] at hok
  simp only [hr] at hwf hfit hb
  have hopen : Store.openWith d = .ok ⟨d, d.catalog⟩ := rfl
  have hdatabase : (work a cfg fs d).2.1 = s.backend := (work_of_refresh hopen hr).2.1
  have hload : Backend.load s.backend = .ok s.committed := by
    have hkept : (Backend.persist b s.committed).1 = s.backend := congrArg (·.1) hb
    rw [← hkept]
    exact hwf.load_persist b hfit
  have hreopen : Store.openWith s.backend = .ok s := by
    rw [Store.openWith, hload]
    rfl
  -- the analysis does not read the mode, and what is produced does not read whether there was one
  have hfirst := fun m => work_of_refresh (a := { a with mode := m }) hopen hr
  have hagain := fun m fs' =>
    have ⟨_, h⟩ := refresh_of_noAnalyze { a with mode := m, noAnalyze := true } cfg fs' rfl s
    work_of_refresh hreopen h
  refine ⟨?_, fun m => ?_, fun m => ?_, fun m => ?_, fun m fs' hfile hmode => ?_⟩
  all_goals rw [hdatabase]
  · rw [hload, hr]
  · exact (hagain m fs).1.trans (hfirst m).1.symm
  · exact (hagain m fs).2.1.trans (hfirst m).2.1.symm
  · exact (hagain m fs).2.2.trans (hfirst m).2.2.symm
  · rw [(hagain m fs').2.2, (hfirst m).2.2]
    exact congrArg answerOf
      (produced_of_files { a with mode := m } cfg hfile hmode fs fs' s.committed)

end CommandLine

/-! ## The round trip -/

/-- **A database gives back what it keeps.** Whatever a database holds, it takes every catalog, and
then loads the last row of each id by ascending id, and nothing else. A catalog that was made by
adding rows comes back as it was, and the command line answers from it as after the analysis. -/
theorem Database.round_trip (d : Database) :
    (∀ c : Catalog, c.FitsWords → (Backend.persist d c).2 = .ok () ∧
      Backend.load (Backend.persist d c).1 =
        .ok (.ofRows (latestRows (·.id) c.files) (latestRows (·.id) c.entities)
          (latestRows (·.id) c.calls))) ∧
    (∀ ops, (Catalog.after ops).FitsWords →
      Backend.load (Backend.persist d (Catalog.after ops)).1 = .ok (Catalog.after ops)) ∧
    ∀ a cfg fs, a.noAnalyze = false →
      (CommandLine.refresh a cfg fs ⟨d, d.catalog⟩).2.2 = .ok () →
      (CommandLine.refresh a cfg fs ⟨d, d.catalog⟩).1.committed.FitsWords →
      CommandLine.AnswersAgain a cfg fs d :=
  ⟨fun _ hfit => ⟨rfl, d.load_persist hfit⟩,
    fun ops hfit => (Catalog.wellFormed_after ops).load_persist d hfit,
    fun _ _ _ ha hok hfit => CommandLine.answersAgain ha hok hfit⟩

/-- A file system with one source, in which one function calls the other. -/
def oneSource : FileSystem where
  root := .directory true [("a.rs", .file (.ofText "fn a() { b() } fn b() {}"))]

/-- A database with rows of another catalog is given rows out of order and with a repeated id, then
rows that were added one by one, and last the catalog of an analysis. -/
theorem Database.round_trip_over_other_rows :
    let d := Database.store {} (.ofRows [⟨⟨"/old.rs", "old", 0⟩, 9⟩] [] [⟨4, 1, 1, "1.0"⟩])
    let c : Catalog :=
      .ofRows [⟨⟨"/b.rs", "b", 0⟩, 300⟩, ⟨⟨"/a.rs", "a", 0⟩, 2⟩, ⟨⟨"/c.rs", "c", 0⟩, 300⟩] [] []
    let ops : List CatalogOp := [.addFile ⟨"/a.rs", "a", 0⟩, .addCall 1 1 "1.0"]
    Backend.load (Backend.persist d c).1 =
      .ok (.ofRows [⟨⟨"/a.rs", "a", 0⟩, 2⟩, ⟨⟨"/c.rs", "c", 0⟩, 300⟩] [] []) ∧
    Backend.load (Backend.persist d (Catalog.after ops)).1 = .ok (Catalog.after ops) ∧
    CommandLine.AnswersAgain { target := "a.rs" } {} oneSource d := by
  intro d c ops
  obtain ⟨hrows, hadded, hanswer⟩ := Database.round_trip d
  refine ⟨?_, hadded ops (by decide), hanswer _ _ _ rfl (by decide +kernel) (by decide +kernel)⟩
  rw [(hrows c (by decide)).2]
  decide +kernel

end CallAtlas
