import CallAtlas.Files.Discovery
import CallAtlas.Proofs.ReconciledReports
import CallAtlas.Proofs.TreeSurvey

/-!
# The sources that are found

A walk from a path finds what a survey of the tree lists (`Discovery.walk_eq`), and the import path
of a file is read off the names on the way (`Discovery.importPath_descend`). Dotted names give
distinct places the same import path. As places come in order, the sources that are kept are those
whose path no earlier place has (`Discovery.distinct_sourceAt`). So discovery in a directory gives
the inventory of the tree (`Discovery.sources_eq_inventory`), and an analysis of the sources finds
no import path taken (`Store.takesEach_of_nodup`).
-/

namespace CallAtlas

/-! ## Walks -/

namespace Found

/-- What was found by a survey from a path. -/
def ofSurvey (path : String) (found : List (List String × Tree.Finding)) : Found where
  files := (Tree.sourcesIn found).map fun x => (Path.descend path x.1, x.2)
  warnings := (Tree.closedIn found).map fun place =>
    { message := (DiscoveryError.unreadable (Path.descend path place)).message }

theorem foldl_append (found : Found) (parts : List (String × Found)) :
    parts.foldl (fun found part => found.append part.2) found =
      ⟨found.files ++ parts.flatMap (·.2.files),
        found.warnings ++ parts.flatMap (·.2.warnings)⟩ := by
  induction parts generalizing found with
  | nil => simp
  | cons part parts ih =>
    rw [List.foldl_cons, ih]
    simp [append]

theorem inOrder_eq (parts : List (String × Found)) : inOrder parts =
    ⟨(parts.mergeSort fun a b => a.1 ≤ b.1).flatMap (·.2.files),
      (parts.mergeSort fun a b => a.1 ≤ b.1).flatMap (·.2.warnings)⟩ :=
  foldl_append {} _

/-- A survey below an entry starts from the path of the entry. -/
theorem ofSurvey_below (path name : String) (found : List (List String × Tree.Finding)) :
    ofSurvey path (found.map fun x => (name :: x.1, x.2)) =
      ofSurvey (Path.join path name) found := by
  simp [ofSurvey, Tree.sourcesIn, Tree.closedIn, Path.descend, List.filterMap_map,
    List.map_filterMap, List.filter_map, Function.comp_def]

theorem ofSurvey_flatMap {α : Type} (path : String) (parts : List α)
    (survey : α → List (List String × Tree.Finding)) : ofSurvey path (parts.flatMap survey) =
      ⟨parts.flatMap fun x => (ofSurvey path (survey x)).files,
        parts.flatMap fun x => (ofSurvey path (survey x)).warnings⟩ := by
  simp [ofSurvey, Tree.sourcesIn, Tree.closedIn, List.filterMap_flatMap, List.filter_flatMap,
    List.map_flatMap]

/-- What was found below entries, in the order of their names, is what a survey of the
directory lists. -/
theorem inOrder_ofSurvey (path : String)
    (parts : List (String × List (List String × Tree.Finding))) :
    inOrder (parts.map fun e => (e.1, ofSurvey (Path.join path e.1) e.2)) =
      ofSurvey path ((parts.mergeSort fun a b => a.1 ≤ b.1).flatMap fun e =>
        e.2.map fun x => (e.1 :: x.1, x.2)) := by
  have hsort := List.map_mergeSort
    (r := fun a b : String × List (List String × Tree.Finding) => decide (a.1 ≤ b.1))
    (s := fun a b : String × Found => decide (a.1 ≤ b.1))
    (f := fun e => (e.1, ofSurvey (Path.join path e.1) e.2)) (l := parts) (fun _ _ _ _ => rfl)
  rw [inOrder_eq, ← hsort, ofSurvey_flatMap]
  simp only [List.flatMap_map, ofSurvey_below]

end Found

namespace Discovery

theorem isSkipped_iff (path : String) :
    isSkipped path = true ↔ Tree.IsPassed (Path.fileName? path) := by
  rw [isSkipped]
  cases Path.fileName? path <;> simp [Tree.IsPassed]

theorem walkEntries_eq (path : String) (es : List (String × Tree)) :
    walkEntries path es = es.map fun e => (e.1, walk (Path.join path e.1) e.2) := by
  induction es with
  | nil => rfl
  | cons e es ih => rw [walkEntries, ih, List.map_cons]

/-- A walk finds what a survey lists. -/
theorem walk_eq {t : Tree} {path : String} (h : t.WellNamed) (hpath : path ≠ "") :
    walk path t = Found.ofSurvey path (t.survey (Path.fileName? path)) := by
  induction h generalizing path with
  | file f =>
    simp only [walk, Tree.survey, isRust, beq_iff_eq]
    split <;> rfl
  | @directory readable es names _ _ ih =>
    have hentries : walkEntries path es =
        (Tree.surveyEntries es).map fun e => (e.1, Found.ofSurvey (Path.join path e.1) e.2) := by
      rw [walkEntries_eq, Tree.surveyEntries_eq, List.map_map]
      refine List.map_congr_left fun e he => ?_
      rw [ih e he (Path.join_ne_empty hpath), Path.fileName?_join hpath (names e he)]
      rfl
    rw [walk, Tree.survey, hentries, Found.inOrder_ofSurvey]
    simp only [isSkipped_iff]
    split
    · rfl
    · split <;> rfl

/-! ## Import paths -/

/-- The dotted path of a place below the root : the package, the names on the way, and the last of
them without its extension. -/
def dotted (d : Discovery) (place : List String) : String :=
  ".".intercalate (d.package :: place.dropLast ++ (place.getLast?.map Path.stem).toList)

/-- The path of a place below the root : the root, a separator unless it ends with one, and the
names with separators between them. -/
def fullPath (d : Discovery) (place : List String) : String :=
  d.root ++ (if d.root.endsWith "/" then "" else "/") ++ "/".intercalate place

/-- The source at a place. Times before 1970 count as zero. -/
def sourceAt (d : Discovery) (x : List String × File) : Source where
  fullPath := d.fullPath x.1
  importPath := d.dotted x.1
  modTime := x.2.modTime.toNat

/-- The warning about a closed directory. -/
def closedAt (d : Discovery) (place : List String) : Warning where
  message := "Failed to read directory " ++ d.fullPath place ++ ": Permission denied (os error 13)"

theorem message_unreadable (directory : String) : (DiscoveryError.unreadable directory).message =
    "Failed to read directory " ++ directory ++ ": Permission denied (os error 13)" := by
  have hdenied : ": " ++ OsError.permissionDenied.message =
      ": Permission denied (os error 13)" := by
    decide +kernel
  rw [← hdenied, ← String.append_assoc]
  rfl

/-- The warning about a file with the import path of an earlier one. -/
def takenAt (d : Discovery) (x first : List String × File) : Warning where
  message := "skipping " ++ d.fullPath x.1 ++ ": import path " ++ d.dotted x.1 ++
    " already taken by " ++ d.fullPath first.1

variable (d : Discovery)

theorem importPath_descend {place : List String} (hroot : d.root ≠ "")
    (h : ∀ name ∈ place, Path.IsName name) :
    d.importPath (Path.descend d.root place) = d.dotted place := by
  rw [importPath, Path.components_descend hroot h, Path.relativeTo_append, dotted]
  rcases List.eq_nil_or_concat place with rfl | ⟨outer, name, rfl⟩
  · rfl
  · have houter : outer.filter (· != ".") = outer := by
      refine List.filter_eq_self.mpr fun other hother => ?_
      simpa using (h other (by simp [hother])).1.2
    simp [Path.parent?, Path.lastName?, Function.comp_def, Component.text, houter]

/-! ## Import paths that are taken -/

/-- What was kept matters by the first source of each import path. -/
theorem distinct_congr {kept kept' : List Source}
    (h : ∀ path, kept.find? (·.importPath == path) = kept'.find? (·.importPath == path))
    (ss : List Source) :
    distinct kept ss = distinct kept' ss := by
  induction ss generalizing kept kept' with
  | nil => rfl
  | cons s ss ih =>
    have hmore : ∀ path, (kept ++ [s]).find? (·.importPath == path) =
        (kept' ++ [s]).find? (·.importPath == path) := by
      intro path
      rw [List.find?_append, List.find?_append, h]
    rw [distinct, distinct, h, ih h, ih hmore]

/-- Sources that were not kept can be looked at again. -/
theorem distinct_cons (before ss : List Source) (s : Source) : distinct before (s :: ss) =
    match before.find? (·.importPath == s.importPath) with
    | some first =>
      ((distinct (before ++ [s]) ss).1, taken s first :: (distinct (before ++ [s]) ss).2)
    | none => (s :: (distinct (before ++ [s]) ss).1, (distinct (before ++ [s]) ss).2) := by
  rw [distinct]
  cases hfind : before.find? (·.importPath == s.importPath) with
  | none => rfl
  | some first =>
    have hsame : distinct before ss = distinct (before ++ [s]) ss := by
      refine distinct_congr (fun path => ?_) ss
      rw [List.find?_append]
      by_cases hpath : s.importPath = path
      · rw [← hpath, hfind, Option.some_or]
      · simp [hpath]
    simp [hsame]

/-- The import path of a place is that of an earlier one. -/
def IsRepeated (P : List String × File → Prop) (x : List String × File) : Prop :=
  ∃ y, P y ∧ y.1 < x.1 ∧ d.dotted y.1 = d.dotted x.1

instance (spots : List (List String × File)) : DecidablePred (d.IsRepeated (· ∈ spots)) := fun x =>
  inferInstanceAs (Decidable (∃ y, y ∈ spots ∧ y.1 < x.1 ∧ d.dotted y.1 = d.dotted x.1))

/-- The first place with the import path of a place. -/
def holder (spots : List (List String × File)) (x : List String × File) : List String × File :=
  (spots.find? fun y => d.dotted y.1 == d.dotted x.1).getD x

section

variable {d} {before rest spots : List (List String × File)} {x : List String × File}
  (hinOrder : spots.Pairwise fun x y => x.1 < y.1)
include hinOrder

/-- Earlier places are those before. -/
theorem isRepeated_iff (h : spots = before ++ x :: rest) :
    d.IsRepeated (· ∈ spots) x ↔ ∃ y ∈ before, d.dotted y.1 = d.dotted x.1 := by
  subst h
  obtain ⟨-, hafter, hbefore⟩ := List.pairwise_append.mp hinOrder
  constructor
  · rintro ⟨y, hy, hlt, hpath⟩
    refine ⟨y, ?_, hpath⟩
    rcases List.mem_append.mp hy with hy | hy
    · exact hy
    · rcases List.mem_cons.mp hy with rfl | hy
      · exact absurd hlt (lt_irrefl _)
      · exact absurd hlt (lt_asymm (List.rel_of_pairwise_cons hafter hy))
  · rintro ⟨y, hy, hpath⟩
    exact ⟨y, List.mem_append_left _ hy, hbefore y hy x List.mem_cons_self, hpath⟩

theorem distinct_sourceAt (h : spots = before ++ rest) :
    distinct (before.map d.sourceAt) (rest.map d.sourceAt) =
      ((rest.filter fun x => ¬d.IsRepeated (· ∈ spots) x).map d.sourceAt,
        (rest.filter fun x => d.IsRepeated (· ∈ spots) x).map fun x =>
          d.takenAt x (d.holder spots x)) := by
  induction rest generalizing before with
  | nil => rfl
  | cons x rest ih =>
    have hrest := @ih (before ++ [x]) (by simp [h])
    have hfirst : (before.map d.sourceAt).find? (·.importPath == (d.sourceAt x).importPath) =
        (before.find? fun y => d.dotted y.1 == d.dotted x.1).map d.sourceAt := List.find?_map
    rw [List.map_append, List.map_singleton] at hrest
    rw [List.map_cons, distinct_cons, hrest, hfirst]
    cases hfind : before.find? fun y => d.dotted y.1 == d.dotted x.1 with
    | none =>
      have hnew : ¬d.IsRepeated (· ∈ spots) x := by
        rw [isRepeated_iff hinOrder h]
        simpa using hfind
      simp [hnew]
    | some y =>
      have hrepeated : d.IsRepeated (· ∈ spots) x :=
        (isRepeated_iff hinOrder h).mpr
          ⟨y, List.mem_of_find?_eq_some hfind, by simpa using List.find?_some hfind⟩
      have hholder : d.holder spots x = y := by
        rw [holder, h, List.find?_append, hfind, Option.some_or, Option.getD_some]
      have htaken : taken (d.sourceAt x) (d.sourceAt y) = d.takenAt x y := rfl
      simp [hrepeated, hholder, htaken]

/-- The first place with an import path is not repeated. -/
theorem holder_spec (hx : d.IsRepeated (· ∈ spots) x) :
    d.holder spots x ∈ spots ∧ ¬d.IsRepeated (· ∈ spots) (d.holder spots x) ∧
      d.dotted (d.holder spots x).1 = d.dotted x.1 := by
  obtain ⟨y, hy, -, hpath⟩ := hx
  cases hfind : spots.find? fun y => d.dotted y.1 == d.dotted x.1 with
  | none => exact absurd hpath (by simpa using List.find?_eq_none.mp hfind y hy)
  | some z =>
    have hholder : d.holder spots x = z := by rw [holder, hfind, Option.getD_some]
    obtain ⟨hz, before, rest, hspots, hbefore⟩ := List.find?_eq_some_iff_append.mp hfind
    rw [beq_iff_eq] at hz
    rw [hholder, isRepeated_iff hinOrder hspots]
    refine ⟨List.mem_of_find?_eq_some hfind, ?_, hz⟩
    rintro ⟨y, hy, hyz⟩
    simpa [hyz, hz] using hbefore y hy

end

/-! ## Inventories -/

/-- One comes to a Rust file in a tree at the root. -/
def HasSource (t : Tree) (x : List String × File) : Prop :=
  t.IsSource (Path.fileName? d.root) x.1 x.2

/-- What there is to tell of a tree at the root, in the order of places : the Rust files
whose import path no earlier one has, the others with the file that has their path, and the
directories that cannot be read. -/
structure Inventory (t : Tree) where
  kept : List (List String × File)
  lists_kept : Tree.Lists (·.1) (fun x => d.HasSource t x ∧ ¬d.IsRepeated (d.HasSource t) x) kept
  repeated : List (List String × File)
  lists_repeated : Tree.Lists (·.1)
    (fun x => d.HasSource t x ∧ d.IsRepeated (d.HasSource t) x) repeated
  first : List String × File → List String × File
  first_kept : ∀ x ∈ repeated, first x ∈ kept ∧ d.dotted (first x).1 = d.dotted x.1
  closed : List (List String)
  lists_closed : Tree.Lists id (t.IsClosed (Path.fileName? d.root)) closed

namespace Inventory

variable {d} {t : Tree}

/-- The sources of an inventory. -/
def sources (inv : d.Inventory t) : List Source :=
  inv.kept.map d.sourceAt

/-- The warnings of an inventory, one for each closed directory and each file that is not kept. -/
def warnings (inv : d.Inventory t) : List Warning :=
  inv.closed.map d.closedAt ++ inv.repeated.map fun x => d.takenAt x (inv.first x)

theorem nodup_importPaths (inv : d.Inventory t) : (inv.sources.map (·.importPath)).Nodup := by
  rw [sources, List.map_map, List.Nodup, List.pairwise_map]
  refine inv.lists_kept.inOrder.imp_of_mem fun {x y} hx hy hlt hpath => ?_
  exact ((inv.lists_kept.mem y).mp hy).2 ⟨x, ((inv.lists_kept.mem x).mp hx).1, hlt, hpath⟩

/-- The inventory of all files and closed directories that one comes to. -/
def ofLists {spots : List (List String × File)} {closed : List (List String)}
    (hspots : Tree.Lists (·.1) (d.HasSource t) spots)
    (hclosed : Tree.Lists id (t.IsClosed (Path.fileName? d.root)) closed) : d.Inventory t where
  kept := spots.filter fun x => ¬d.IsRepeated (· ∈ spots) x
  lists_kept := by
    have hmem := hspots.mem_eq
    rw [← hmem] at hspots ⊢
    exact hspots.filter _
  repeated := spots.filter fun x => d.IsRepeated (· ∈ spots) x
  lists_repeated := by
    have hmem := hspots.mem_eq
    rw [← hmem] at hspots ⊢
    exact hspots.filter _
  first := d.holder spots
  first_kept x hx := by
    have hrepeated : d.IsRepeated (· ∈ spots) x := of_decide_eq_true (List.mem_filter.mp hx).2
    obtain ⟨hholder, hnew, hpath⟩ := holder_spec hspots.inOrder hrepeated
    exact ⟨List.mem_filter.mpr ⟨hholder, decide_eq_true hnew⟩, hpath⟩
  closed := closed
  lists_closed := hclosed

end Inventory

/-- The inventory of a tree at the root. -/
def inventory {t : Tree} (h : t.WellNamed) : d.Inventory t :=
  .ofLists (Tree.lists_sources h) (Tree.lists_closed h)

/-- Sources of files are told apart by their import paths. -/
theorem sources_of_files {fs : FileSystem} {found : Found} {all : List Source}
    (hfound : d.files fs = .ok found)
    (hall : found.files.map
      (fun x => source (if fs.isFile d.root then d.package else d.importPath x.1) x.1 x.2) = all) :
    d.sources fs = .ok ((distinct [] all).1, found.warnings ++ (distinct [] all).2) := by
  rw [sources, hfound, ← hall]

section

variable {d} {fs : FileSystem} {readable : Bool} {es : List (String × Tree)}
  (hroot : fs.find d.root = .ok (.directory readable es))
include hroot

theorem root_ne_empty : d.root ≠ "" := by
  intro hempty
  simp [hempty, FileSystem.find, FileSystem.locate] at hroot

theorem sources_of_closed (h : ¬(readable = true ∨ Tree.IsPassed (Path.fileName? d.root))) :
    d.sources fs = .error (.unreadable d.root) := by
  have hclosed : (readable || isSkipped d.root) = false := by
    rwa [← isSkipped_iff, ← Bool.or_eq_true, Bool.not_eq_true] at h
  simp [sources, files, hroot, hclosed]

theorem sources_of_isPassed (h : Tree.IsPassed (Path.fileName? d.root)) :
    d.sources fs = .ok ([], []) := by
  have hskipped := (isSkipped_iff d.root).mpr h
  simp [sources, files, hroot, walk, hskipped, distinct]

/-- One comes to files and closed directories below a root that can be read or is passed over. -/
theorem descend_eq_fullPath (h : readable = true ∨ Tree.IsPassed (Path.fileName? d.root))
    (hnames : (Tree.directory readable es).WellNamed) {place : List String} {t : Tree}
    (hat : (Tree.directory readable es).at? place = some t)
    (ht : (∃ f, t = .file f) ∨
      (∃ entries, t = .directory false entries) ∧
        ¬Tree.IsPassed (Tree.nameAt (Path.fileName? d.root) place)) :
    Path.descend d.root place = d.fullPath place := by
  refine Path.descend_eq (root_ne_empty hroot) ?_ (hnames.isName_of_at? hat)
  rintro rfl
  obtain rfl := Option.some.inj hat
  rcases ht with ⟨f, hf⟩ | ⟨⟨entries, hclosed⟩, hpassed⟩
  · cases hf
  · obtain ⟨rfl, rfl⟩ := Tree.directory.inj hclosed
    exact h.elim nofun hpassed

/-- A root that can be read gives its inventory. -/
theorem sources_eq_inventory (h : readable = true ∨ Tree.IsPassed (Path.fileName? d.root))
    (hnames : (Tree.directory readable es).WellNamed) :
    d.sources fs = .ok ((d.inventory hnames).sources, (d.inventory hnames).warnings) := by
  have hne := root_ne_empty hroot
  have hopen : (readable || isSkipped d.root) = true := by
    rwa [← isSkipped_iff, ← Bool.or_eq_true] at h
  have hfiles : d.files fs = .ok (.ofSurvey d.root
      ((Tree.directory readable es).survey (Path.fileName? d.root))) := by
    simp [files, hroot, hopen, walk_eq hnames hne]
  have hfile : fs.isFile d.root = false := by simp [FileSystem.isFile, hroot]
  have hlists : Tree.Lists (·.1) (d.HasSource (.directory readable es)) _ :=
    Tree.lists_sources hnames
  have hmap : (Found.ofSurvey d.root
      ((Tree.directory readable es).survey (Path.fileName? d.root))).files.map
      (fun x => source (if fs.isFile d.root then d.package else d.importPath x.1) x.1 x.2) =
      (Tree.sourcesIn ((Tree.directory readable es).survey (Path.fileName? d.root))).map
        d.sourceAt := by
    rw [Found.ofSurvey, List.map_map]
    refine List.map_congr_left fun x hx => ?_
    have hat := ((hlists.mem x).mp hx).2.1
    have hpath := descend_eq_fullPath hroot h hnames hat (.inl ⟨_, rfl⟩)
    have himport := importPath_descend d hne (hnames.isName_of_at? hat)
    rw [hpath] at himport
    simp [hfile, source, sourceAt, himport, hpath]
  have hclosed : (Found.ofSurvey d.root
      ((Tree.directory readable es).survey (Path.fileName? d.root))).warnings =
      (Tree.closedIn ((Tree.directory readable es).survey (Path.fileName? d.root))).map
        d.closedAt := by
    refine List.map_congr_left fun place hplace => ?_
    obtain ⟨-, ⟨entries, hat⟩, hpassed⟩ := ((Tree.lists_closed hnames).mem place).mp hplace
    rw [descend_eq_fullPath hroot h hnames hat (.inr ⟨⟨_, rfl⟩, hpassed⟩)]
    exact congrArg (Warning.mk · []) (message_unreadable (d.fullPath place))
  have hdistinct := distinct_sourceAt (d := d) hlists.inOrder (List.nil_append _).symm
  rw [List.map_nil] at hdistinct
  rw [sources_of_files d hfiles hmap, hdistinct, hclosed]
  rfl

end

end Discovery

/-! ## Analysis of sources with distinct import paths -/

namespace Catalog

variable {σ : Type} (i : SourceReader σ) (o : ResolveOptions) {sources : List Source}

/-- The rows of sources that are registered one after another. -/
def rowsOf (sources : List Source) : List FileRow :=
  sources.mapIdx fun k s => { s with id := k + 1 }

theorem length_rowsOf (sources : List Source) : (rowsOf sources).length = sources.length :=
  List.length_mapIdx

theorem rowsOf_concat (sources : List Source) (s : Source) :
    rowsOf (sources ++ [s]) = rowsOf sources ++ [{ s with id := sources.length + 1 }] :=
  List.mapIdx_concat

theorem files_registered (h : (sources.map (·.importPath)).Nodup) :
    (registered i sources).files = rowsOf sources := by
  induction sources using List.reverseRecOn with
  | nil => rfl
  | append_singleton sources s ih =>
    rw [List.map_append, List.map_singleton, ← List.concat_eq_append, List.nodup_concat] at h
    have hfiles := ih h.2
    rw [registered_concat, files_addSource i (wellFormed_registered i sources)]
    rcases (registered i sources).addFile_cases s with ⟨f, hf, hpath, -⟩ | ⟨-, he⟩
    · -- the path would be that of an earlier source
      have hmem := (mem_paths_registered i sources).mp (List.mem_map.mpr ⟨f, hf, hpath⟩)
      exact absurd hmem h.1
    · rw [he, files_pushFile, hfiles, length_rowsOf, rowsOf_concat]

/-- A source is left out only if the declarations of its own file cannot be read. -/
theorem unreadable_of_error {before rest : List Source} {s : Source} {e : SourceError}
    (h : ((before ++ s :: rest).map (·.importPath)).Nodup)
    (he : ((registered i before).addSource i s).2 = .error e) :
    ∃ reason, e = .unreadable reason ∧
      i.declarations { s with id := before.length + 1 } = .error reason := by
  have hfront : ((before ++ [s]).map (·.importPath)).Nodup :=
    h.sublist (List.Sublist.map _ (by simp))
  obtain ⟨f, hf, hpath, hcases⟩ := addSource_cases i (wellFormed_registered i before) s
  have hrow : { s with id := before.length + 1 } ∈ (registered i (before ++ [s])).files := by
    rw [files_registered i hfront, rowsOf_concat]
    simp
  obtain rfl := row_unique (mem_registered_of_addFile hf) hrow hpath
  rcases hcases with ⟨hfull, -⟩ | ⟨-, reason, hread, hadd⟩ | ⟨-, ds, -, hadd⟩
  · exact absurd rfl hfull
  · rw [hadd] at he
    cases he
    exact ⟨reason, rfl, hread⟩
  · rw [hadd] at he
    cases he

theorem map_toSource_rowsOf (sources : List Source) :
    (rowsOf sources).map (·.toSource) = sources := by
  induction sources using List.reverseRecOn with
  | nil => rfl
  | append_singleton sources s ih => rw [rowsOf_concat, List.map_append, ih, List.map_singleton]

/-- As many sources are left out as files have declarations that cannot be read. -/
theorem length_sourceWarnings_of_nodup (h : (sources.map (·.importPath)).Nodup) :
    (sourceWarnings i sources).length = (rowsOf sources).countP fun f =>
      !(i.declarations f).isOk := by
  have hwarnings := length_sourceWarnings i sources []
  rw [List.append_nil] at hwarnings
  have hrows : ∀ f ∈ rowsOf sources,
      (isClaimed sources f.toSource || isUnread i (registered i sources) f.toSource) =
      !(i.declarations f).isOk := by
    intro f hf
    have hsource : f.toSource ∈ sources := map_toSource_rowsOf sources ▸ List.mem_map_of_mem hf
    have hrow : f ∈ (registered i sources).files := by rwa [files_registered i h]
    have hclaimed : isClaimed sources f.toSource = false := by
      rw [isClaimed, find?_key_of_mem h hsource]
      simp
    have hunread := find?_key_of_mem (wellFormed_registered i sources).paths hrow
    rw [hclaimed, isUnread, hunread, Bool.false_or, Option.any_some]
  calc (sourceWarnings i sources).length
      = ((rowsOf sources).map (·.toSource)).countP
          fun s => isClaimed sources s || isUnread i (registered i sources) s := by
        rw [hwarnings, map_toSource_rowsOf]
    _ = (rowsOf sources).countP fun f => !(i.declarations f).isOk := by
        rw [List.countP_map]
        exact List.countP_congr fun f hf => by rw [Function.comp_apply, hrows f hf]

end Catalog

namespace Store

variable {β σ : Type} [Backend β]

open Catalog (registered rowsOf)

/-- An analysis gives each source a file of its own. A source is left out only if the declarations
of its file cannot be read. -/
structure TakesEach (s : Store β) (sources : List Source) (i : SourceReader σ)
    (o : ResolveOptions) : Prop where
  reasons : ∀ before source rest, sources = before ++ source :: rest →
    ∀ e, ((registered i before).addSource i source).2 = .error e →
      ∃ reason, e = .unreadable reason ∧
        i.declarations { source with id := before.length + 1 } = .error reason
  files : ∀ report, (s.analyze (.ok sources) i o).2.2 = .ok report →
    (s.analyze (.ok sources) i o).1.committed.files = rowsOf sources ∧ report.files = sources.length
  failed : ∀ report, (s.analyze (.ok sources) i o).2.2 = .ok report →
    report.failedFiles = (rowsOf sources).countP fun f => !(i.declarations f).isOk

theorem takesEach_of_nodup (s : Store β) {sources : List Source} (i : SourceReader σ)
    (o : ResolveOptions) (h : (sources.map (·.importPath)).Nodup) : s.TakesEach sources i o := by
  have hfiles : (Catalog.analyzed i o sources).files = rowsOf sources :=
    (Catalog.registered_analyzed i o sources).1.trans (Catalog.files_registered i h)
  have houtcome := s.outcome_analyze (.ok sources) i o
  refine ⟨fun before source rest hsplit e he => ?_, fun report hok => ?_, fun report hok => ?_⟩
  · rw [hsplit] at h
    exact Catalog.unreadable_of_error i h he
  · rw [hok] at houtcome
    obtain ⟨rfl, hcommitted⟩ := houtcome.eq_of_ok
    rw [hcommitted, Catalog.analysisReport, hfiles, Catalog.length_rowsOf]
    exact ⟨rfl, rfl⟩
  · rw [hok] at houtcome
    obtain ⟨rfl, -⟩ := houtcome.eq_of_ok
    exact Catalog.length_sourceWarnings_of_nodup i h

end Store

namespace Discovery

/-- **Discovery is complete and unambiguous.** In a directory it succeeds if the directory can be
read, or is passed over for its name and then gives nothing. What it gives is the inventory of the
tree : the Rust files that one comes to are sources, but for those with the import path of an
earlier one, which are warned about once each, as are the directories that cannot be read. So no two
sources have the same import path, and an analysis leaves a source out only if its declarations
cannot be read. -/
theorem sources_complete {β σ : Type} [Backend β] (d : Discovery) (fs : FileSystem)
    {readable : Bool} {es : List (String × Tree)}
    (hroot : fs.find d.root = .ok (.directory readable es))
    (hnames : (Tree.directory readable es).WellNamed)
    (s : Store β) (i : SourceReader σ) (o : ResolveOptions) :
    ((∃ found, d.sources fs = .ok found) ↔
      readable = true ∨ Tree.IsPassed (Path.fileName? d.root)) ∧
    (Tree.IsPassed (Path.fileName? d.root) → d.sources fs = .ok ([], [])) ∧
    ∀ sources warnings, d.sources fs = .ok (sources, warnings) →
      (∃ inv : d.Inventory (.directory readable es), sources = inv.sources ∧
        warnings = inv.warnings) ∧
      (sources.map (·.importPath)).Nodup ∧ s.TakesEach sources i o := by
  by_cases hopen : readable = true ∨ Tree.IsPassed (Path.fileName? d.root)
  · have hsources := sources_eq_inventory hroot hopen hnames
    refine ⟨iff_of_true ⟨_, hsources⟩ hopen, sources_of_isPassed hroot,
      fun sources warnings h => ?_⟩
    rw [hsources] at h
    obtain ⟨rfl, rfl⟩ := Prod.mk.inj (Except.ok.inj h)
    have hnodup := (d.inventory hnames).nodup_importPaths
    exact ⟨⟨_, rfl, rfl⟩, hnodup, s.takesEach_of_nodup i o hnodup⟩
  · have hsources := sources_of_closed hroot hopen
    refine ⟨iff_of_false ?_ hopen, fun h => absurd (.inr h) hopen, fun sources warnings h => ?_⟩
    · rintro ⟨found, hfound⟩
      rw [hsources] at hfound
      cases hfound
    · rw [hsources] at h
      cases h

/-- A directory with a file of each kind, listed out of order : two files have one import path, some
are below directories that are passed over or cannot be read, and one is no Rust file. -/
def mixedEntries : List (String × Tree) :=
  [(".git", .directory false []), ("a.b.rs", .file { bytes := .empty, modTime := 3 }),
    ("a", .directory true [("b.rs", .file { bytes := .empty, modTime := -5 })]),
    ("lib.rs", .file { bytes := .empty, modTime := 7 }), ("notes.txt", .file { bytes := .empty }),
    ("secret", .directory false [("key.rs", .file { bytes := .empty })]),
    ("target", .directory true [("made.rs", .file { bytes := .empty })])]

theorem wellNamed_mixedEntries : (Tree.directory true mixedEntries).WellNamed := by
  have hfile : ∀ readable name f, Path.IsName name →
      (Tree.directory readable [(name, .file f)]).WellNamed :=
    fun readable name f h => .directory readable (by simpa using h) (by simp)
      (by simpa using .file f)
  refine .directory true (by decide) (by decide) ?_
  simp only [mixedEntries, List.forall_mem_cons]
  exact ⟨.directory _ (by simp) (by simp) (by simp), .file _, hfile _ _ _ (by decide),
    .file _, .file _, hfile _ _ _ (by decide), hfile _ _ _ (by decide), by simp⟩

theorem survey_mixedEntries : (Tree.directory true mixedEntries).survey (some "pkg") =
    [(["a", "b.rs"], .source { bytes := .empty, modTime := -5 }),
      (["a.b.rs"], .source { bytes := .empty, modTime := 3 }),
      (["lib.rs"], .source { bytes := .empty, modTime := 7 }), (["secret"], .closed)] := by
  have hentries : Tree.surveyEntries mixedEntries =
      [(".git", []), ("a.b.rs", [([], .source { bytes := .empty, modTime := 3 })]),
        ("a", [(["b.rs"], .source { bytes := .empty, modTime := -5 })]),
        ("lib.rs", [([], .source { bytes := .empty, modTime := 7 })]), ("notes.txt", []),
        ("secret", [([], .closed)]), ("target", [])] := by
    have hrust :
        ["a.b.rs", "b.rs", "lib.rs"].map Path.extension? = List.replicate 3 (some "rs") := by
      decide +kernel
    have hnotes : Path.extension? "notes.txt" = some "txt" := by decide +kernel
    simp only [List.map_cons, List.map_nil, List.replicate, List.cons.injEq, and_true] at hrust
    simp [mixedEntries, Tree.surveyEntries, Tree.survey, Tree.IsPassed, hrust, hnotes]
  have hpassed : ¬Tree.IsPassed (some "pkg") := by decide
  rw [Tree.survey, if_neg hpassed, hentries,
    Tree.mergeSort_names_eq (.cons _ (.swap _ _ _)) (by decide +kernel)]
  rfl

theorem sources_complete_mixed :
    let fs : FileSystem := { root := .directory true [("pkg", .directory true mixedEntries)] }
    let d : Discovery := ⟨"/pkg", "pkg"⟩
    let i : SourceReader Unit := ⟨fun _ => .error "no text", fun _ => .ok []⟩
    let sources : List Source := [⟨"/pkg/a/b.rs", "pkg.a.b", 0⟩, ⟨"/pkg/lib.rs", "pkg.lib", 7⟩]
    let warnings : List Warning :=
      [{ message := "Failed to read directory /pkg/secret: Permission denied (os error 13)" },
        { message := "skipping /pkg/a.b.rs: import path pkg.a.b already taken by /pkg/a/b.rs" }]
    fs.find d.root = .ok (.directory true mixedEntries) ∧
      (Tree.directory true mixedEntries).WellNamed ∧
    d.sources fs = .ok (sources, warnings) ∧
      (∃ inv : d.Inventory (.directory true mixedEntries), sources = inv.sources ∧
        warnings = inv.warnings) ∧
      (sources.map (·.importPath)).Nodup ∧
        (⟨{}, .empty⟩ : Store Memory).TakesEach sources i {} := by
  intro fs d i sources warnings
  have hlocate : fs.locate d.root = .ok ["pkg"] := by decide +kernel
  have hroot : fs.find d.root = .ok (.directory true mixedEntries) := by
    rw [FileSystem.find, hlocate]
    rfl
  have hname : Path.fileName? d.root = some "pkg" := by decide +kernel
  have hok : d.sources fs = .ok (sources, warnings) := by
    rw [sources_eq_inventory hroot (.inl rfl) wellNamed_mixedEntries]
    simp only [Inventory.sources, Inventory.warnings, inventory, Inventory.ofLists, hname,
      survey_mixedEntries]
    decide +kernel
  have hcomplete := d.sources_complete fs hroot wellNamed_mixedEntries
    (⟨{}, .empty⟩ : Store Memory) i {}
  exact ⟨hroot, wellNamed_mixedEntries, hok, hcomplete.2.2 sources warnings hok⟩

end Discovery

end CallAtlas
