import Mathlib.Data.List.Nodup
import Mathlib.Data.String.Basic
import CallAtlas.Files.Tree
import CallAtlas.Proofs.PathSteps

/-!
# Surveys of a tree

Going down a tree, directories named `target` or `.git` are passed over, and those that cannot be
read are left closed. `Tree.IsSource` and `Tree.IsClosed` say by the directories above a place
whether one comes to a Rust file there, or to a closed directory. `Tree.survey` lists what one comes
to, with the names on the way. It misses nothing (`Tree.mem_survey`), and goes depth first with
entries in the order of their names, so places come in the order of their names too
(`Tree.pairwise_survey`).
-/

namespace CallAtlas

namespace Tree

/-- Entries have names of their own in each directory. -/
inductive WellNamed : Tree → Prop
  | file (f : File) : WellNamed (.file f)
  | directory (readable : Bool) {es : List (String × Tree)} (names : ∀ e ∈ es, Path.IsName e.1)
      (apart : (es.map (·.1)).Nodup) (inner : ∀ e ∈ es, WellNamed e.2) :
    WellNamed (.directory readable es)

/-! ## What one comes to -/

/-- Whether a directory is passed over for its name. -/
def IsPassed (name : Option String) : Prop :=
  name = some "target" ∨ name = some ".git"

instance (name : Option String) : Decidable (IsPassed name) :=
  inferInstanceAs (Decidable (_ ∨ _))

/-- The name at a place in a tree that is itself named `top`. -/
def nameAt (top : Option String) (place : List String) : Option String :=
  place.getLast?.or top

/-- The directories above a place can be read, and none is passed over. -/
def IsOpen (top : Option String) (t : Tree) (place : List String) : Prop :=
  ∀ above below, above ++ below = place → below ≠ [] →
    ∃ es, t.at? above = some (.directory true es) ∧ ¬IsPassed (nameAt top above)

/-- One comes to a Rust file. -/
def IsSource (top : Option String) (t : Tree) (place : List String) (f : File) : Prop :=
  IsOpen top t place ∧ t.at? place = some (.file f) ∧
    (nameAt top place).bind Path.extension? = some "rs"

/-- One comes to a directory that cannot be read. -/
def IsClosed (top : Option String) (t : Tree) (place : List String) : Prop :=
  IsOpen top t place ∧ (∃ es, t.at? place = some (.directory false es)) ∧
    ¬IsPassed (nameAt top place)

/-- The names on the way to anything are those of entries. -/
theorem WellNamed.isName_of_at? {t found : Tree} {place : List String} (h : t.WellNamed)
    (hat : t.at? place = some found) : ∀ name ∈ place, Path.IsName name := by
  induction h generalizing place with
  | file f =>
    cases place with
    | nil => simp
    | cons name place => simp [at?, entries] at hat
  | @directory readable es names _ _ ih =>
    cases place with
    | nil => simp
    | cons name place =>
      obtain ⟨t, hlookup, hbelow⟩ := Option.bind_eq_some_iff.mp hat
      obtain ⟨before, after, rfl, -⟩ := List.lookup_eq_some_iff.mp hlookup
      have he : (name, t) ∈ before ++ (name, t) :: after := by simp
      exact List.forall_mem_cons.mpr ⟨names _ he, ih _ he hbelow⟩

variable {top : Option String} {t t' : Tree} {name : String} {place : List String}
  {es : List (String × Tree)}

@[simp] theorem nameAt_nil : nameAt top [] = top := rfl

@[simp] theorem nameAt_cons : nameAt top (name :: place) = nameAt (some name) place := by
  rw [nameAt, nameAt, List.getLast?_cons]
  cases place.getLast? <;> simp

theorem isOpen_nil : IsOpen top t [] := by
  intro above below happend hbelow
  exact absurd (List.append_eq_nil_iff.mp happend).2 hbelow

/-- A place below an entry is open if the directory is, and the place is open from the entry on. -/
theorem isOpen_cons (h : t.entries.lookup name = some t') : IsOpen top t (name :: place) ↔
    (∃ es, t = .directory true es) ∧ ¬IsPassed top ∧ IsOpen (some name) t' place := by
  constructor
  · intro hopen
    obtain ⟨es, hes, hpassed⟩ := hopen [] (name :: place) rfl (by simp)
    refine ⟨⟨es, Option.some.inj hes⟩, hpassed, fun above below happend hbelow => ?_⟩
    simpa [at?, h] using hopen (name :: above) below (by simp [happend]) hbelow
  · rintro ⟨⟨es, hes⟩, hpassed, hopen⟩ above below happend hbelow
    cases above with
    | nil => exact ⟨es, congrArg some hes, hpassed⟩
    | cons other above =>
      obtain ⟨rfl, hrest⟩ := List.cons.inj happend
      simpa [at?, h] using hopen above below hrest hbelow

theorem isSource_cons {f : File} (h : t.entries.lookup name = some t') :
    IsSource top t (name :: place) f ↔
    (∃ es, t = .directory true es) ∧ ¬IsPassed top ∧ IsSource (some name) t' place f := by
  simp only [IsSource, isOpen_cons h, nameAt_cons, at?, h, Option.bind_some, and_assoc]

theorem isClosed_cons (h : t.entries.lookup name = some t') : IsClosed top t (name :: place) ↔
    (∃ es, t = .directory true es) ∧ ¬IsPassed top ∧ IsClosed (some name) t' place := by
  simp only [IsClosed, isOpen_cons h, nameAt_cons, at?, h, Option.bind_some, and_assoc]

/-- All that has a property is listed, once each and in the order of places. Places are in the
order of their names, so what is below a directory comes together, and entries come in the order of
their names. -/
structure Lists {α : Type} (place : α → List String) (P : α → Prop) (xs : List α) : Prop where
  mem : ∀ x, x ∈ xs ↔ P x
  inOrder : xs.Pairwise fun x y => place x < place y

theorem Lists.mem_eq {α : Type} {place : α → List String} {P : α → Prop} {xs : List α}
    (h : Lists place P xs) : (· ∈ xs) = P :=
  funext fun x => propext (h.mem x)

theorem Lists.filter {α : Type} {place : α → List String} {P : α → Prop} {xs : List α}
    (h : Lists place P xs) (Q : α → Prop) [DecidablePred Q] :
    Lists place (fun x => P x ∧ Q x) (xs.filter Q) where
  mem x := by simp [h.mem]
  inOrder := h.inOrder.filter _

/-! ## Surveys -/

/-- A Rust file, or a closed directory. -/
inductive Finding where
  | source (f : File)
  | closed

/-- One comes to the finding. -/
def IsFound (top : Option String) (t : Tree) (place : List String) : Finding → Prop
  | .source f => IsSource top t place f
  | .closed => IsClosed top t place

theorem isFound_cons {x : Finding} (h : t.entries.lookup name = some t') :
    IsFound top t (name :: place) x ↔
    (∃ es, t = .directory true es) ∧ ¬IsPassed top ∧ IsFound (some name) t' place x := by
  cases x with
  | source f => exact isSource_cons h
  | closed => exact isClosed_cons h

theorem exists_at?_of_isFound {x : Finding} (h : IsFound top t place x) :
    ∃ found, t.at? place = some found := by
  cases x with
  | source f => exact ⟨_, h.2.1⟩
  | closed => exact ⟨_, h.2.1.choose_spec⟩

mutual

/-- What one comes to in a tree, with the names on the way. -/
def survey (top : Option String) : Tree → List (List String × Finding)
  | .file f => if top.bind Path.extension? = some "rs" then [([], .source f)] else []
  | .directory readable es =>
    if IsPassed top then []
    else if readable then
      ((surveyEntries es).mergeSort fun a b => a.1 ≤ b.1).flatMap fun e =>
        e.2.map fun x => (e.1 :: x.1, x.2)
    else [([], .closed)]

/-- What one comes to in each entry of a directory. -/
def surveyEntries : List (String × Tree) → List (String × List (List String × Finding))
  | [] => []
  | (name, t) :: es => (name, survey (some name) t) :: surveyEntries es

end

theorem surveyEntries_eq (es : List (String × Tree)) :
    surveyEntries es = es.map fun e => (e.1, survey (some e.1) e.2) := by
  induction es with
  | nil => rfl
  | cons e es ih => rw [surveyEntries, ih, List.map_cons]

/-- Entries with names of their own are found by name. -/
theorem mem_iff_lookup (h : (es.map (·.1)).Nodup) : (name, t) ∈ es ↔ es.lookup name = some t := by
  rw [List.lookup_eq_some_iff]
  constructor
  · intro hmem
    obtain ⟨before, after, rfl⟩ := List.append_of_mem hmem
    refine ⟨before, after, rfl, fun e he => ?_⟩
    rw [List.map_append, List.map_cons, List.nodup_middle, List.nodup_cons] at h
    rw [bne_iff_ne]
    intro heq
    exact h.1 (List.mem_append_left _ (List.mem_map.mpr ⟨e, he, heq.symm⟩))
  · rintro ⟨before, after, rfl, -⟩
    simp

/-- One comes to a directory itself if it is closed, else to what is below its entries. -/
theorem isFound_directory {readable : Bool} {x : Finding} (h : (es.map (·.1)).Nodup) :
    IsFound top (.directory readable es) place x ↔ ¬IsPassed top ∧
      (readable = false ∧ place = [] ∧ x = .closed ∨
        readable = true ∧ ∃ e ∈ es, ∃ rest, place = e.1 :: rest ∧
          IsFound (some e.1) e.2 rest x) := by
  cases place with
  | nil => cases x <;> simp [IsFound, IsSource, IsClosed, isOpen_nil, at?, and_comm]
  | cons name rest =>
    constructor
    · intro hfound
      obtain ⟨found, hat⟩ := exists_at?_of_isFound hfound
      obtain ⟨t, hlookup, -⟩ := Option.bind_eq_some_iff.mp hat
      obtain ⟨⟨_, hopen⟩, hpassed, hbelow⟩ := (isFound_cons hlookup).mp hfound
      cases hopen
      exact ⟨hpassed, .inr ⟨rfl, (name, t), (mem_iff_lookup h).mpr hlookup, rest, rfl, hbelow⟩⟩
    · rintro ⟨hpassed, ⟨-, hnil, -⟩ | ⟨rfl, ⟨name, t⟩, he, rest, hplace, hbelow⟩⟩
      · cases hnil
      · cases hplace
        exact (isFound_cons ((mem_iff_lookup h).mp he)).mpr ⟨⟨es, rfl⟩, hpassed, hbelow⟩

theorem mem_survey_directory {readable : Bool} {x : Finding} :
    (place, x) ∈ survey top (.directory readable es) ↔ ¬IsPassed top ∧
      (readable = false ∧ place = [] ∧ x = .closed ∨
        readable = true ∧ ∃ e ∈ es, ∃ rest, place = e.1 :: rest ∧
          (rest, x) ∈ survey (some e.1) e.2) := by
  rw [survey, surveyEntries_eq]
  by_cases hpassed : IsPassed top
  · simp [hpassed]
  · cases readable with
    | false => simp [hpassed]
    | true =>
      rw [if_neg hpassed, if_pos rfl, List.mem_flatMap]
      constructor
      · rintro ⟨_, hsorted, hx⟩
        obtain ⟨e, he, rfl⟩ := List.mem_map.mp (List.mem_mergeSort.mp hsorted)
        obtain ⟨⟨rest, y⟩, hy, heq⟩ := List.mem_map.mp hx
        cases heq
        exact ⟨hpassed, .inr ⟨rfl, e, he, rest, rfl, hy⟩⟩
      · rintro ⟨-, ⟨hclosed, -⟩ | ⟨-, e, he, rest, rfl, hy⟩⟩
        · cases hclosed
        · exact ⟨_, List.mem_mergeSort.mpr (List.mem_map_of_mem he), List.mem_map.mpr ⟨_, hy, rfl⟩⟩

/-- A survey lists what one comes to, and nothing else. -/
theorem mem_survey {x : Finding} (h : t.WellNamed) :
    (place, x) ∈ survey top t ↔ IsFound top t place x := by
  induction h generalizing top place with
  | file f =>
    cases place with
    | nil =>
      cases x <;> simp [survey, IsFound, IsSource, IsClosed, isOpen_nil, at?, eq_comm, and_comm]
    | cons name place =>
      have hnone : (Tree.file f).at? (name :: place) = none := by simp [at?, entries]
      refine iff_of_false (by simp [survey]) fun hfound => ?_
      obtain ⟨found, hat⟩ := exists_at?_of_isFound hfound
      simp [hnone] at hat
  | directory readable _ apart _ ih =>
    rw [mem_survey_directory, isFound_directory apart]
    refine and_congr_right fun _ => or_congr_right (and_congr_right fun _ => ?_)
    refine exists_congr fun e => and_congr_right fun he => ?_
    simp only [ih e he]

theorem pairwise_names {α : Type} {parts : List (String × α)} (h : (parts.map (·.1)).Nodup) :
    (parts.mergeSort fun a b => a.1 ≤ b.1).Pairwise fun a b => a.1 < b.1 := by
  have hle : (parts.mergeSort fun a b => a.1 ≤ b.1).Pairwise fun a b => decide (a.1 ≤ b.1) = true :=
    List.pairwise_mergeSort (fun a b c => by simpa using le_trans)
      (fun a b => by simpa using le_total a.1 b.1) parts
  have hne := (((parts.mergeSort_perm fun a b => a.1 ≤ b.1).map (·.1)).nodup_iff).mpr h
  rw [List.Nodup, List.pairwise_map] at hne
  exact (hle.and hne).imp fun ⟨hle, hne⟩ => lt_of_le_of_ne (of_decide_eq_true hle) hne

/-- Names are put in order in one way only. -/
theorem mergeSort_names_eq {α : Type} {parts sorted : List (String × α)} (hperm : parts.Perm sorted)
    (h : sorted.Pairwise fun a b => a.1 < b.1) :
    (parts.mergeSort fun a b => a.1 ≤ b.1) = sorted := by
  have hnames : (parts.map (·.1)).Nodup := by
    rw [(hperm.map (·.1)).nodup_iff, List.Nodup, List.pairwise_map]
    exact h.imp ne_of_lt
  exact List.Perm.eq_of_pairwise (fun a b _ _ hab hba => absurd hab hba.asymm)
    (pairwise_names hnames) h
    ((parts.mergeSort_perm fun a b => a.1 ≤ b.1).trans hperm)

/-- What is below different entries comes in the order of their names, and what is below one entry
comes in the order there. -/
theorem pairwise_survey (h : t.WellNamed) : (survey top t).Pairwise fun x y => x.1 < y.1 := by
  induction h generalizing top with
  | file f =>
    rw [survey]
    split <;> simp
  | @directory readable es _ apart _ ih =>
    have hentries : (surveyEntries es).map (·.1) = es.map (·.1) := by simp [surveyEntries_eq]
    have hnames := pairwise_names (hentries ▸ apart)
    rw [survey]
    split
    · exact .nil
    · split
      · refine List.pairwise_flatMap.mpr ⟨fun e he => ?_, hnames.imp fun hlt x hx y hy => ?_⟩
        · rw [List.mem_mergeSort, surveyEntries_eq] at he
          obtain ⟨e, he, rfl⟩ := List.mem_map.mp he
          exact List.pairwise_map.mpr
            ((ih e ‹e ∈ es›).imp fun hlt => List.cons_lt_cons_iff.mpr (.inr ⟨rfl, hlt⟩))
        · obtain ⟨x, -, rfl⟩ := List.mem_map.mp hx
          obtain ⟨y, -, rfl⟩ := List.mem_map.mp hy
          exact List.cons_lt_cons_iff.mpr (.inl hlt)
      · exact List.pairwise_singleton _ _

/-- The file of a finding. -/
def Finding.file? : Finding → Option File
  | .source f => some f
  | .closed => none

/-- The Rust files of findings. -/
def sourcesIn (found : List (List String × Finding)) : List (List String × File) :=
  found.filterMap fun x => x.2.file?.map (x.1, ·)

/-- The closed directories of findings. -/
def closedIn (found : List (List String × Finding)) : List (List String) :=
  (found.filter fun x => x.2.file?.isNone).map (·.1)

theorem lists_sources (h : t.WellNamed) :
    Lists (·.1) (fun x : List String × File => IsSource top t x.1 x.2)
      (sourcesIn (survey top t)) where
  mem x := by
    refine .trans ?_ (mem_survey (x := .source x.2) h)
    rw [sourcesIn, List.mem_filterMap]
    constructor
    · rintro ⟨⟨place, y⟩, hy, heq⟩
      cases y with
      | source f =>
        cases heq
        exact hy
      | closed => cases heq
    · exact fun hx => ⟨_, hx, rfl⟩
  inOrder := by
    refine (pairwise_survey h).filterMap _ fun a a' hlt b hb b' hb' => ?_
    obtain ⟨f, -, rfl⟩ := Option.map_eq_some_iff.mp hb
    obtain ⟨f', -, rfl⟩ := Option.map_eq_some_iff.mp hb'
    exact hlt

theorem lists_closed (h : t.WellNamed) : Lists id (IsClosed top t) (closedIn (survey top t)) where
  mem place := by
    refine .trans ?_ (mem_survey (x := .closed) h)
    rw [closedIn, List.mem_map]
    constructor
    · rintro ⟨⟨place, y⟩, hy, rfl⟩
      obtain ⟨hmem, hclosed⟩ := List.mem_filter.mp hy
      cases y with
      | source f => cases hclosed
      | closed => exact hmem
    · exact fun hx => ⟨_, List.mem_filter.mpr ⟨hx, rfl⟩, rfl⟩
  inOrder := List.pairwise_map.mpr ((pairwise_survey h).filter _)

end Tree

end CallAtlas
