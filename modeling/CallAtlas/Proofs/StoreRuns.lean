import CallAtlas.Proofs.KeyedRows

/-!
# Stores in use

A backend is `Keeping` if a write that it takes replaces the catalog it keeps, a write that it
refuses leaves that catalog, and opening it again changes nothing of it. A database keeps
well-formed catalogs (`Database.keeping`). A `Session` runs transactions with phases of any kind,
clearings and reopenings on a store, with refusals in any pattern. On a store whose committed
catalog is the kept one, each operation is all or nothing (`Store.Atomic`), whatever a phase has
staged when it fails.

`Recorded` writes down every write that a backend is asked for, and changes nothing else
(`Session.forget_run`). The invariant of a recorded session is `Session.Settled` : the kept catalog
is the last one that was written and taken, or the loaded one if there is none, and an open store
has committed it.
-/

namespace CallAtlas

/-! ## What an operation can do -/

namespace Store

variable {β : Type} [Backend β]

/-- A commit is taken or refused by the backend. -/
theorem commit_cases (s : Store β) (staged : Catalog) :
    (∃ b, Backend.persist s.backend staged = (b, .ok ()) ∧
      s.commit staged = (⟨b, staged⟩, .ok ())) ∨
    (∃ b e, Backend.persist s.backend staged = (b, .error e) ∧
      s.commit staged = (⟨b, s.committed⟩, .error e)) := by
  rcases hp : Backend.persist s.backend staged with ⟨b, r⟩
  cases r with
  | ok => exact .inl ⟨b, rfl, by simp [commit, hp]⟩
  | error e => exact .inr ⟨b, e, rfl, by simp [commit, hp]⟩

/-- A transaction fails in its phase, or is taken, or is refused by the backend. -/
theorem transaction_cases {ε α : Type} (s : Store β) (refused : StoreError → ε)
    (phase : Phase ε α) :
    (∃ staged w e, phase s.committed = (staged, w, .error e) ∧
      s.transaction refused phase = (s, w, .error e)) ∨
    (∃ staged w a b, phase s.committed = (staged, w, .ok a) ∧
      Backend.persist s.backend staged = (b, .ok ()) ∧
      s.transaction refused phase = (⟨b, staged⟩, w, .ok a)) ∨
    (∃ staged w a b e, phase s.committed = (staged, w, .ok a) ∧
      Backend.persist s.backend staged = (b, .error e) ∧
      s.transaction refused phase = (⟨b, s.committed⟩, w, .error (refused e))) := by
  rcases hr : phase s.committed with ⟨staged, w, e | a⟩
  · exact .inl ⟨staged, w, e, rfl, by simp [transaction, hr]⟩
  · rcases s.commit_cases staged with ⟨b, hp, hc⟩ | ⟨b, e, hp, hc⟩
    · exact .inr (.inl ⟨staged, w, a, b, rfl, hp, by simp [transaction, hr, hc]⟩)
    · exact .inr (.inr ⟨staged, w, a, b, e, rfl, hp, by simp [transaction, hr, hc]⟩)

/-- A transaction succeeds with what its phase staged, and the backend took it. -/
theorem transaction_eq_ok {ε α : Type} {s t : Store β} {refused : StoreError → ε}
    {phase : Phase ε α} {w : List Warning} {a : α}
    (h : s.transaction refused phase = (t, w, .ok a)) :
    phase s.committed = (t.committed, w, .ok a) ∧
      Backend.persist s.backend t.committed = (t.backend, .ok ()) := by
  rcases s.transaction_cases refused phase with
    ⟨staged, w', e', -, hc⟩ | ⟨staged, w', a', b, hr, hp, hc⟩ | ⟨staged, w', a', b, e', -, -, hc⟩
  all_goals rw [hc, Prod.mk.injEq, Prod.mk.injEq] at h
  · exact absurd h.2.2 (by simp)
  · obtain ⟨rfl, rfl, ha⟩ := h
    obtain rfl := Except.ok.inj ha
    exact ⟨hr, hp⟩
  · exact absurd h.2.2 (by simp)

/-- A clearing succeeds if the backend takes the catalog without rows. -/
theorem clear_eq_ok {s t : Store β} (h : s.clear = (t, .ok ())) :
    t.committed = .empty ∧ Backend.persist s.backend .empty = (t.backend, .ok ()) := by
  rcases s.commit_cases .empty with ⟨b, hp, hc⟩ | ⟨b, e', hp, hc⟩
  all_goals rw [clear, hc, Prod.mk.injEq] at h
  · obtain ⟨rfl, -⟩ := h
    exact ⟨rfl, hp⟩
  · exact absurd h.2 (by simp)

theorem openWith_eq_ok {b : β} {s : Store β} (h : openWith b = .ok s) :
    Backend.load b = .ok s.committed ∧ s.backend = b := by
  unfold openWith at h
  cases hl : Backend.load b with
  | error e => simp [hl, Except.map] at h
  | ok c =>
    obtain rfl : ⟨b, c⟩ = s := by simpa [hl, Except.map] using h
    exact ⟨rfl, rfl⟩

/-- After a phase that succeeds, a transaction leaves the store as a commit does. -/
theorem fst_transaction {ε α : Type} {s : Store β} (refused : StoreError → ε) {phase : Phase ε α}
    {w : List Warning} {a : α} {staged : Catalog} (h : phase s.committed = (staged, w, .ok a)) :
    (s.transaction refused phase).1 = (s.commit staged).1 := by
  simp only [transaction, h]
  rcases s.commit staged with ⟨t, e | u⟩ <;> rfl

end Store

/-! ## Backends that keep a catalog -/

/-- A write of a catalog that fits replaces the kept one if it is taken. A write that is refused
leaves the kept catalog. What is loaded is the kept catalog. -/
structure Keeping (β : Type) [Backend β] where
  kept : β → Catalog
  fits : Catalog → Prop
  fits_empty : fits .empty
  eq_kept_of_load : ∀ {b c}, Backend.load b = .ok c → c = kept b
  kept_of_ok : ∀ {b c b'}, fits c → Backend.persist b c = (b', .ok ()) → kept b' = c
  kept_of_error : ∀ {b c b' e}, Backend.persist b c = (b', .error e) → kept b' = kept b
  kept_reopened : ∀ b, kept (Backend.reopened b) = kept b

/-- A database keeps the well-formed catalogs whose ids are numbers of 64 bits. -/
def Database.keeping : Keeping Database where
  kept := catalog
  fits c := c.WellFormed ∧ c.FitsWords
  fits_empty := ⟨Catalog.wellFormed_empty, by decide⟩
  eq_kept_of_load h := (Except.ok.inj h).symm
  kept_of_ok {b c b'} hc h := by
    obtain rfl : b.store c = b' := congrArg Prod.fst h
    exact Except.ok.inj (hc.1.load_persist b hc.2)
  kept_of_error h := by cases h
  kept_reopened _ := rfl

variable {β : Type} [Backend β]

namespace Store

/-- Operations on `s` are all or nothing. -/
structure Atomic (K : Keeping β) (s : Store β) : Prop where
  /-- A phase that fails changes nothing, whatever it has staged. -/
  failed : ∀ {ε α : Type} (refused : StoreError → ε) (phase : Phase ε α) {staged w e},
    phase s.committed = (staged, w, .error e) → s.transaction refused phase = (s, w, .error e)
  /-- An error leaves the committed catalog and the kept one. -/
  error : ∀ {ε α : Type} (refused : StoreError → ε) (phase : Phase ε α) {t w e},
    s.transaction refused phase = (t, w, .error e) →
      t.committed = s.committed ∧ K.kept t.backend = K.kept s.backend
  /-- A success commits and keeps all that the phase staged. -/
  ok : ∀ {ε α : Type} (refused : StoreError → ε) (phase : Phase ε α) {t w a},
    s.transaction refused phase = (t, w, .ok a) →
      phase s.committed = (t.committed, w, .ok a) ∧
        (K.fits t.committed → K.kept t.backend = t.committed)
  clear_error : ∀ {t e}, s.clear = (t, .error e) →
    t.committed = s.committed ∧ K.kept t.backend = K.kept s.backend
  clear_ok : ∀ {t}, s.clear = (t, .ok ()) → t.committed = .empty ∧ K.kept t.backend = .empty
  /-- Opening again gives the same catalogs. -/
  reopen : ∀ {t}, s.reopen = .ok t →
    t.committed = s.committed ∧ K.kept t.backend = K.kept s.backend

variable (K : Keeping β) {s : Store β}
include K

theorem atomic_of_kept (hs : s.committed = K.kept s.backend) : Atomic K s where
  failed refused phase staged w e hp := by simp [transaction, hp]
  error refused phase t w e h := by
    rcases s.transaction_cases refused phase with
      ⟨staged, w', e', -, hc⟩ | ⟨staged, w', a, b, -, -, hc⟩ | ⟨staged, w', a, b, e', -, hp, hc⟩
    all_goals rw [hc, Prod.mk.injEq, Prod.mk.injEq] at h
    · obtain ⟨rfl, -⟩ := h
      exact ⟨rfl, rfl⟩
    · exact absurd h.2.2 (by simp)
    · obtain ⟨rfl, -⟩ := h
      exact ⟨rfl, K.kept_of_error hp⟩
  ok refused phase t w a h :=
    have ⟨hr, hp⟩ := transaction_eq_ok h
    ⟨hr, fun hfits => K.kept_of_ok hfits hp⟩
  clear_error h := by
    rcases s.commit_cases .empty with ⟨b, hp, hc⟩ | ⟨b, e', hp, hc⟩
    all_goals rw [clear, hc, Prod.mk.injEq] at h
    · exact absurd h.2 (by simp)
    · obtain ⟨rfl, -⟩ := h
      exact ⟨rfl, K.kept_of_error hp⟩
  clear_ok h :=
    have ⟨hc, hp⟩ := clear_eq_ok h
    ⟨hc, K.kept_of_ok K.fits_empty hp⟩
  reopen h := by
    obtain ⟨hl, hb⟩ := openWith_eq_ok h
    have hk := K.kept_reopened s.backend
    rw [hb, hs, hk, ← hk]
    exact ⟨K.eq_kept_of_load hl, rfl⟩

end Store

/-! ## Sessions -/

/-- An operation on a store. -/
inductive StoreOp : Type 1 where
  | transaction {ε α : Type} (refused : StoreError → ε) (phase : Phase ε α)
  | clear
  | reopen

/-- A store that is open, or a backend that could not be opened again. -/
inductive Session (β : Type) where
  | opened (s : Store β)
  | closed (b : β)

namespace Session

/-- The backend of a session. -/
def backend {β : Type} : Session β → β
  | .opened s => s.backend
  | .closed b => b

/-- Open a backend again. -/
def reopen (b : β) : Session β :=
  match Store.openWith (Backend.reopened b) with
  | .ok s => .opened s
  | .error _ => .closed (Backend.reopened b)

/-- The session after an operation. What is closed can only be opened again. -/
def step : Session β → StoreOp → Session β
  | .opened s, .transaction refused phase => .opened (s.transaction refused phase).1
  | .opened s, .clear => .opened s.clear.1
  | .opened s, .reopen => reopen s.backend
  | .closed b, .reopen => reopen b
  | .closed b, _ => .closed b

/-- The session after a run of operations. -/
def run (x : Session β) (ops : List StoreOp) : Session β :=
  ops.foldl step x

theorem run_concat (x : Session β) (ops : List StoreOp) (op : StoreOp) :
    x.run (ops ++ [op]) = (x.run ops).step op := by
  rw [run, List.foldl_append]
  rfl

end Session

/-! ## Recorded writes -/

/-- A backend, with the writes that it was asked for and whether it took them. -/
structure Recorded (β : Type) where
  inner : β
  writes : List (Catalog × Bool) := []

instance : Backend (Recorded β) where
  load r := Backend.load r.inner
  persist r c :=
    let (b, taken) := Backend.persist r.inner c
    (⟨b, r.writes ++ [(c, taken.isOk)]⟩, taken)
  reopened r := ⟨Backend.reopened r.inner, r.writes⟩

namespace Recorded

/-- The last write that was taken, or `c` if none was. -/
def lastTaken (c : Catalog) (writes : List (Catalog × Bool)) : Catalog :=
  ((writes.filter (·.2)).getLast?.map (·.1)).getD c

theorem lastTaken_taken (c staged : Catalog) (writes : List (Catalog × Bool)) :
    lastTaken c (writes ++ [(staged, true)]) = staged := by
  simp [lastTaken]

theorem lastTaken_refused (c staged : Catalog) (writes : List (Catalog × Bool)) :
    lastTaken c (writes ++ [(staged, false)]) = lastTaken c writes := by
  simp [lastTaken]

/-- A commit asks the backend for one write. -/
theorem commit_cases (s : Store (Recorded β)) (staged : Catalog) :
    (∃ b, Backend.persist s.backend.inner staged = (b, .ok ()) ∧
      s.commit staged = (⟨⟨b, s.backend.writes ++ [(staged, true)]⟩, staged⟩, .ok ())) ∨
    (∃ b e, Backend.persist s.backend.inner staged = (b, .error e) ∧
      s.commit staged =
        (⟨⟨b, s.backend.writes ++ [(staged, false)]⟩, s.committed⟩, .error e)) := by
  rcases hp : Backend.persist s.backend.inner staged with ⟨b, e | u⟩
  · exact .inr ⟨b, e, rfl, by simp [Store.commit, Backend.persist, hp, Except.isOk, Except.toBool]⟩
  · exact .inl ⟨b, rfl, by simp [Store.commit, Backend.persist, hp, Except.isOk, Except.toBool]⟩

end Recorded

/-- A store without its record. -/
def Store.forget {β : Type} (s : Store (Recorded β)) : Store β :=
  ⟨s.backend.inner, s.committed⟩

theorem Store.commit_forget (s : Store (Recorded β)) (staged : Catalog) :
    s.forget.commit staged = ((s.commit staged).1.forget, (s.commit staged).2) := by
  rcases Recorded.commit_cases s staged with ⟨b, hp, hc⟩ | ⟨b, e, hp, hc⟩
  · rw [hc]
    simp [forget, commit, hp]
  · rw [hc]
    simp [forget, commit, hp]

theorem Store.transaction_forget {ε α : Type} (s : Store (Recorded β)) (refused : StoreError → ε)
    (phase : Phase ε α) : s.forget.transaction refused phase =
      ((s.transaction refused phase).1.forget, (s.transaction refused phase).2) := by
  have hcommitted : s.forget.committed = s.committed := rfl
  rw [transaction, transaction, hcommitted]
  rcases phase s.committed with ⟨staged, w, e | a⟩
  · rfl
  · simp only [commit_forget]
    rcases s.commit staged with ⟨t, e | u⟩ <;> rfl

namespace Session

/-- A session without its record. -/
def forget {β : Type} : Session (Recorded β) → Session β
  | .opened s => .opened s.forget
  | .closed b => .closed b.inner

theorem backend_forget {β : Type} (x : Session (Recorded β)) :
    x.forget.backend = x.backend.inner := by
  cases x <;> rfl

theorem forget_reopen (b : Recorded β) : (reopen b).forget = reopen b.inner := by
  have hload : Backend.load (Backend.reopened b) = Backend.load (Backend.reopened b.inner) := rfl
  unfold reopen Store.openWith
  rw [hload]
  cases Backend.load (Backend.reopened b.inner) <;> rfl

theorem forget_step (x : Session (Recorded β)) (op : StoreOp) :
    (x.step op).forget = x.forget.step op := by
  cases x with
  | opened s =>
    cases op with
    | transaction refused phase =>
      exact congrArg (fun p => opened p.1) (s.transaction_forget refused phase).symm
    | clear => exact congrArg (fun p => opened p.1) (s.commit_forget .empty).symm
    | reopen => exact forget_reopen s.backend
  | closed b =>
    cases op with
    | transaction refused phase => rfl
    | clear => rfl
    | reopen => exact forget_reopen b

/-- Recording changes nothing of a run. -/
theorem forget_run (x : Session (Recorded β)) (ops : List StoreOp) :
    (x.run ops).forget = x.forget.run ops := by
  induction ops using List.reverseRecOn with
  | nil => rfl
  | append_singleton ops op ih => rw [run_concat, run_concat, forget_step, ih]

/-! ## The invariant -/

/-- The kept catalog is the last one that was written and taken, or `c` if none was, and in an open
store it is the committed one. -/
structure Agrees (K : Keeping β) (c : Catalog) (x : Session (Recorded β)) : Prop where
  kept : K.kept x.backend.inner = Recorded.lastTaken c x.backend.writes
  committed : ∀ s, x = .opened s → s.committed = K.kept s.backend.inner

/-- All is as it should be, if the catalogs that were taken fit. -/
def Settled (K : Keeping β) (c : Catalog) (x : Session (Recorded β)) : Prop :=
  (∀ d, (d, true) ∈ x.backend.writes → K.fits d) → Agrees K c x

variable {K : Keeping β} {c : Catalog}

theorem agrees_opened {s : Store (Recorded β)}
    (hk : K.kept s.backend.inner = Recorded.lastTaken c s.backend.writes)
    (hs : s.committed = K.kept s.backend.inner) : Agrees K c (.opened s) :=
  ⟨hk, fun t ht => by
    obtain rfl := Session.opened.inj ht
    exact hs⟩

theorem settled_commit {s : Store (Recorded β)} (h : Settled K c (.opened s)) (staged : Catalog) :
    Settled K c (.opened (s.commit staged).1) := by
  intro hfits
  rcases Recorded.commit_cases s staged with ⟨b, hp, hc⟩ | ⟨b, e, hp, hc⟩
  all_goals rw [hc] at hfits ⊢
  · have hk := K.kept_of_ok (hfits staged (List.mem_concat_self ..)) hp
    exact agrees_opened (hk.trans (Recorded.lastTaken_taken c staged _).symm) hk.symm
  · have hbefore := h fun d hd => hfits d (List.mem_append_left _ hd)
    have hk := K.kept_of_error hp
    refine agrees_opened ?_ ((hbefore.committed s rfl).trans hk.symm)
    exact (hk.trans hbefore.kept).trans (Recorded.lastTaken_refused c staged _).symm

/-- What a phase that fails has staged is not written. -/
theorem settled_transaction {s : Store (Recorded β)} (h : Settled K c (.opened s)) {ε α : Type}
    (refused : StoreError → ε) (phase : Phase ε α) :
    Settled K c (.opened (s.transaction refused phase).1) := by
  rcases hr : phase s.committed with ⟨staged, w, e | a⟩
  · have hfst : (s.transaction refused phase).1 = s := by simp [Store.transaction, hr]
    rwa [hfst]
  · rw [Store.fst_transaction refused hr]
    exact settled_commit h staged

theorem writes_reopen (b : Recorded β) : (reopen b).backend.writes = b.writes := by
  unfold reopen Store.openWith
  cases Backend.load (Backend.reopened b) <;> rfl

theorem settled_reopen {x : Session (Recorded β)} (h : Settled K c x) :
    Settled K c (reopen x.backend) := by
  intro hfits
  rw [writes_reopen] at hfits
  have hk : K.kept (Backend.reopened x.backend).inner =
      Recorded.lastTaken c (Backend.reopened x.backend).writes :=
    (K.kept_reopened x.backend.inner).trans (h hfits).kept
  unfold reopen Store.openWith
  cases hl : Backend.load (Backend.reopened x.backend) with
  | error e => exact ⟨hk, fun s hs => by cases hs⟩
  | ok d => exact agrees_opened hk (K.eq_kept_of_load hl)

theorem settled_step {x : Session (Recorded β)} (h : Settled K c x) (op : StoreOp) :
    Settled K c (x.step op) := by
  cases x with
  | opened s =>
    cases op with
    | transaction refused phase => exact settled_transaction h refused phase
    | clear => exact settled_commit h .empty
    | reopen => exact settled_reopen h
  | closed b =>
    cases op with
    | transaction refused phase => exact h
    | clear => exact h
    | reopen => exact settled_reopen h

theorem settled_run {x : Session (Recorded β)} (h : Settled K c x) (ops : List StoreOp) :
    Settled K c (x.run ops) := by
  induction ops using List.reverseRecOn with
  | nil => exact h
  | append_singleton ops op ih =>
    rw [run_concat]
    exact settled_step ih op

/-! ## Runs on an opened store -/

/-- A session on a store that records from now on. -/
def recording {β : Type} (s : Store β) : Session (Recorded β) :=
  .opened ⟨⟨s.backend, []⟩, s.committed⟩

/-- The writes that a run on a store asks the backend for, and whether they are taken. -/
def asked (s : Store β) (ops : List StoreOp) : List (Catalog × Bool) :=
  ((recording s).run ops).backend.writes

theorem asked_failed {s₀ s : Store β} {ops : List StoreOp} (h : (opened s₀).run ops = .opened s)
    {ε α : Type} (refused : StoreError → ε) {phase : Phase ε α} {staged : Catalog}
    {w : List Warning} {e : ε} (hr : phase s.committed = (staged, w, .error e)) :
    asked s₀ (ops ++ [.transaction refused phase]) = asked s₀ ops := by
  have hf : ((recording s₀).run ops).forget = .opened s := (forget_run _ ops).trans h
  rw [asked, run_concat, asked]
  cases hx : (recording s₀).run ops with
  | closed b => rfl
  | opened t =>
    rw [hx] at hf
    obtain rfl : t.forget = s := Session.opened.inj hf
    have hr' : phase t.committed = (staged, w, .error e) := hr
    simp [step, Store.transaction, hr', backend]

/-- From an opened store on, after every run of operations the kept catalog is the last one that was
written and taken, or the loaded one if none was. In an open store the committed catalog is the
same, the next operation is all or nothing, and a phase that fails asks for no write, whatever it
has staged. -/
theorem all_or_nothing_after (K : Keeping β) {b : β} {s₀ : Store β}
    (h : Store.openWith b = .ok s₀) (ops : List StoreOp)
    (hfits : ∀ c, (c, true) ∈ asked s₀ ops → K.fits c) :
    K.kept ((opened s₀).run ops).backend = Recorded.lastTaken s₀.committed (asked s₀ ops) ∧
    ∀ s, (opened s₀).run ops = .opened s →
      s.committed = Recorded.lastTaken s₀.committed (asked s₀ ops) ∧
      s.committed = K.kept s.backend ∧
      Store.Atomic K s ∧
      ∀ {ε α : Type} (refused : StoreError → ε) (phase : Phase ε α) {staged w e},
        phase s.committed = (staged, w, .error e) →
          asked s₀ (ops ++ [.transaction refused phase]) = asked s₀ ops := by
  obtain ⟨hload, hb⟩ := Store.openWith_eq_ok h
  have hstart : Settled K s₀.committed (recording s₀) := by
    have hk : s₀.committed = K.kept s₀.backend := hb ▸ K.eq_kept_of_load hload
    exact fun _ => agrees_opened hk.symm hk
  have hnow := settled_run hstart ops hfits
  have hforget : ((recording s₀).run ops).forget = (opened s₀).run ops := forget_run _ ops
  have hkept : K.kept ((opened s₀).run ops).backend =
      Recorded.lastTaken s₀.committed (asked s₀ ops) := by
    rw [← hforget, backend_forget]
    exact hnow.kept
  refine ⟨hkept, fun s hs => ?_⟩
  have hc : s.committed = K.kept s.backend := by
    rw [hs] at hforget
    cases hx : (recording s₀).run ops with
    | closed b => rw [hx] at hforget; cases hforget
    | opened t =>
      rw [hx] at hforget
      obtain rfl : t.forget = s := Session.opened.inj hforget
      exact hnow.committed t hx
  rw [hs] at hkept
  exact ⟨hc.trans hkept, hc, Store.atomic_of_kept K hc, fun refused phase _ _ _ hr =>
    asked_failed hs refused hr⟩

end Session

/-- A backend that refuses some of the next writes, by a pattern. -/
structure Wary (β : Type) where
  inner : β
  refusals : List Bool := []

instance : Backend (Wary β) where
  load b := Backend.load b.inner
  persist b c :=
    match b.refusals with
    | true :: rest => (⟨b.inner, rest⟩, .error .aborted)
    | rest =>
      let (inner, taken) := Backend.persist b.inner c
      (⟨inner, rest.tail⟩, taken)
  reopened b := ⟨Backend.reopened b.inner, b.refusals⟩

/-- Refused writes do not reach the backend below. -/
def Keeping.wary (K : Keeping β) : Keeping (Wary β) where
  kept b := K.kept b.inner
  fits := K.fits
  fits_empty := K.fits_empty
  eq_kept_of_load h := K.eq_kept_of_load h
  kept_of_ok {b c b'} hc h := by
    simp only [Backend.persist] at h
    split at h
    · simp at h
    · obtain ⟨rfl, htaken⟩ := Prod.mk.inj h
      exact K.kept_of_ok hc (Prod.ext rfl htaken)
  kept_of_error {b c b' e} h := by
    simp only [Backend.persist] at h
    split at h
    · obtain ⟨rfl, -⟩ := Prod.mk.inj h
      rfl
    · obtain ⟨rfl, hrefused⟩ := Prod.mk.inj h
      exact K.kept_of_error (Prod.ext rfl hrefused)
  kept_reopened b := K.kept_reopened b.inner

/-- A registration in a database that is taken, a phase that has registered another file when it
fails, a clearing that is refused, and a reopening leave what the registration committed. -/
theorem Session.all_or_nothing_after_refusal :
    let a : Source := ⟨"/a.rs", "pkg.a", 0⟩
    let b : Source := ⟨"/b.rs", "pkg.b", 0⟩
    let register : Phase String Nat := fun c => ((c.addFile a).1, [], .ok (c.addFile a).2)
    let spoil : Phase String Nat := fun c => ((c.addFile b).1, [], .error "spoilt")
    let s₀ : Store (Wary Database) := ⟨⟨{}, [false, true]⟩, .ofRows [] [] []⟩
    let ops : List StoreOp :=
      [.transaction (·.message) register, .transaction (·.message) spoil, .clear, .reopen]
    Store.openWith s₀.backend = .ok s₀ ∧
    (∀ c, (c, true) ∈ asked s₀ ops → Database.keeping.wary.fits c) ∧
    (asked s₀ ops).map (fun w => (w.1.files.map (·.importPath), w.2)) =
      [(["pkg.a"], true), ([], false)] ∧
    ∃ s, (opened s₀).run ops = .opened s ∧
      s.committed.files.map (·.importPath) = ["pkg.a"] ∧
      (spoil s.committed).1.files.map (·.importPath) = ["pkg.a", "pkg.b"] ∧
      s.transaction (·.message) spoil = (s, [], .error "spoilt") ∧
      s.committed = Recorded.lastTaken s₀.committed (asked s₀ ops) ∧
      s.committed = Database.keeping.wary.kept s.backend := by
  intro a b register spoil s₀ ops
  have hopen : Store.openWith s₀.backend = .ok s₀ := rfl
  have hasked : asked s₀ ops = [(Catalog.after [.addFile a], true), (.empty, false)] := rfl
  have hfits : ∀ c, (c, true) ∈ asked s₀ ops → Database.keeping.wary.fits c := by
    intro c hc
    obtain rfl : c = Catalog.after [.addFile a] := by simpa [hasked] using hc
    exact ⟨Catalog.wellFormed_after _, by decide⟩
  refine ⟨hopen, hfits, by rw [hasked]; decide, _, rfl, by decide +kernel, by decide +kernel, ?_⟩
  obtain ⟨hlast, hkept, hatomic, -⟩ :=
    (all_or_nothing_after Database.keeping.wary hopen ops hfits).2 _ rfl
  exact ⟨hatomic.failed _ spoil rfl, hlast, hkept⟩

end CallAtlas
