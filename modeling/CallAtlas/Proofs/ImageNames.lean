import Mathlib.Data.List.Nodup
import CallAtlas.Images.Batch
import CallAtlas.Proofs.PathSteps

/-!
# The names of images

The image of an entity is named for its dotted name, with an underscore for every character that is
not safe. Two entities share a name if their dotted names look alike (`Batch.stem_eq_iff`) : letter
for letter they are the same, or both are written as underscores. Where no dotted names look alike,
all images of a batch have paths of their own, so every path is reported once and no image takes the
place of another (`Batch.images_apart_iff`).
-/

namespace CallAtlas

/-! ## Names that look alike -/

/-- The dotted name of an entity, its container in front. -/
def Entity.dotted (e : Entity) : String :=
  e.importPath ++ "." ++ e.baseName

namespace Batch

/-- How a character stands in a file name. -/
def clean (c : Char) : Char :=
  if isSafe c then c else '_'

/-- The file name of an image without its extension. -/
def stem (e : Entity) : String :=
  String.ofList (e.dotted.toList.map clean)

theorem fileName_eq (e : Entity) (extension : String) :
    fileName e extension = stem e ++ "." ++ extension :=
  rfl

/-- Whether a character stands as an underscore. -/
def IsBlank (c : Char) : Prop :=
  c = '_' ∨ isSafe c = false

/-- Whether two characters stand the same in a file name. -/
def LooksLike (c d : Char) : Prop :=
  c = d ∨ IsBlank c ∧ IsBlank d

/-- Whether two texts look alike in a file name, letter for letter. -/
def Alike (s t : String) : Prop :=
  s.toList.Forall₂ LooksLike t.toList

theorem clean_eq_underscore_iff {c : Char} : clean c = '_' ↔ IsBlank c := by
  cases hsafe : isSafe c <;> simp [clean, IsBlank, hsafe]

theorem clean_eq_iff {c d : Char} : clean c = clean d ↔ LooksLike c d := by
  have hself : ∀ {c : Char}, ¬IsBlank c → clean c = c := by
    intro c hc
    rw [IsBlank, not_or, Bool.not_eq_false] at hc
    rw [clean, if_pos hc.2]
  constructor
  · intro h
    by_cases hc : IsBlank c
    · exact .inr ⟨hc, clean_eq_underscore_iff.mp (h ▸ clean_eq_underscore_iff.mpr hc)⟩
    · have hd : ¬IsBlank d := fun hd =>
        hc (clean_eq_underscore_iff.mp (h ▸ clean_eq_underscore_iff.mpr hd))
      exact .inl (by rw [← hself hc, h, hself hd])
  · rintro (rfl | ⟨hc, hd⟩)
    · rfl
    · rw [clean_eq_underscore_iff.mpr hc, clean_eq_underscore_iff.mpr hd]

theorem map_clean_eq_iff {s t : String} : s.toList.map clean = t.toList.map clean ↔ Alike s t := by
  rw [← List.forall₂_eq_eq_eq, List.forall₂_map_left_iff, List.forall₂_map_right_iff, Alike]
  simp only [clean_eq_iff]

/-- Two entities have the same stem if their dotted names look alike. -/
theorem stem_eq_iff {e d : Entity} : stem e = stem d ↔ Alike e.dotted d.dotted := by
  rw [stem, stem, String.ofList_inj, map_clean_eq_iff]

theorem fileName_eq_iff {e d : Entity} {extension : String} :
    fileName e extension = fileName d extension ↔ Alike e.dotted d.dotted := by
  rw [fileName_eq, fileName_eq, String.append_left_inj, String.append_left_inj, stem_eq_iff]

theorem stem_ne_empty (e : Entity) : stem e ≠ "" := by
  simp [stem, Entity.dotted]

theorem slash_notMem_stem (e : Entity) : '/' ∉ (stem e).toList := by
  have hclean : ∀ c : Char, clean c ≠ '/' := by
    intro c hc
    rw [clean] at hc
    split at hc
    · rename_i hsafe
      rw [hc] at hsafe
      exact absurd hsafe (by decide)
    · exact absurd hc (by decide)
  simp [stem, hclean]

/-- The paths of images are the same if the dotted names look alike. -/
theorem components_imagePath_eq_iff {b : Batch} {e d : Entity} :
    Path.components (b.imagePath e) = Path.components (b.imagePath d) ↔
      Alike e.dotted d.dotted := by
  rw [← stem_eq_iff]
  constructor
  · exact Path.stem_eq_of_components_join (stem_ne_empty e) (stem_ne_empty d) (slash_notMem_stem e)
      (slash_notMem_stem d)
  · intro h
    rw [imagePath, imagePath, fileName_eq, fileName_eq, h]

/-! ## Runs -/

section Run

variable {ρ : Type} {b : Batch} {p : Projection} {directories : DirectoryMaker ρ}
  {maker : ImageMaker ρ} {state : ρ}

/-- Without its directory a batch makes nothing. -/
theorem run_of_error {cause : OsError} (h : directories state b.outDir = .error cause) :
    b.run p directories maker state = (state, .error ⟨b.outDir, cause⟩) := by
  rw [run, h]

theorem run_of_ok {state' : ρ} (h : directories state b.outDir = .ok state') :
    b.run p directories maker state =
      ((b.make p maker state' (b.eligible p)).1, .ok (b.make p maker state' (b.eligible p)).2) := by
  rw [run, h]

end Run

section Make

variable {ρ : Type} (b : Batch) (p : Projection) (maker : ImageMaker ρ)

/-- A run reports paths of the images that it was asked for, in their order. -/
theorem written_make_sublist (state : ρ) (l : List (Nat × Entity)) :
    (b.make p maker state l).2.written.Sublist (l.map fun x => b.imagePath x.2) := by
  induction l generalizing state with
  | nil => exact .slnil
  | cons x l ih =>
    rw [make, List.map_cons]
    split
    · exact (ih _).cons_cons _
    · exact (ih _).cons _

/-- If no image fails, then a run reports the paths of all. -/
theorem written_make {maker : ImageMaker ρ}
    (hmaker : ∀ state dot path, (maker state dot path).2 = .ok ()) (state : ρ)
    (l : List (Nat × Entity)) :
    (b.make p maker state l).2.written = l.map fun x => b.imagePath x.2 := by
  induction l generalizing state with
  | nil => rfl
  | cons x l ih =>
    rw [make, List.map_cons]
    split
    · rw [← ih]
    · rename_i hfail
      have hok := hmaker state (b.drawing p x.1).toDot (b.imagePath x.2)
      rw [hfail] at hok
      cases hok

end Make

/-- Images by their paths. -/
abbrev Gallery := Index (List Component) String

/-- Keep an image under its path, in place of what was there. -/
def Gallery.put : ImageMaker Gallery :=
  fun images dot path => (images.insert (Path.components path) dot, .ok ())

/-- Images need no directory. -/
def Gallery.anywhere : DirectoryMaker Gallery :=
  fun images _ => .ok images

section Keep

variable {b : Batch} {p : Projection}

/-- The path of the image of an entity, step by step. -/
def location (b : Batch) (x : Nat × Entity) : List Component :=
  Path.components (b.imagePath x.2)

theorem make_put_cons (images : Gallery) (x : Nat × Entity) (l : List (Nat × Entity)) :
    (b.make p Gallery.put images (x :: l)).1 =
      (b.make p Gallery.put (images.insert (b.location x) (b.drawing p x.1).toDot) l).1 :=
  rfl

/-- A run leaves alone what is not at the path of one of its images. -/
theorem get?_make_of_notMem {k : List Component} {l : List (Nat × Entity)}
    (h : k ∉ l.map b.location) (images : Gallery) :
    (b.make p Gallery.put images l).1.get? k = images.get? k := by
  induction l generalizing images with
  | nil => rfl
  | cons x l ih =>
    rw [List.map_cons, List.mem_cons, not_or] at h
    rw [make_put_cons, ih h.2, Index.get?_insert_of_ne h.1]

/-- At distinct paths all images of a run are kept. -/
theorem get?_make {l : List (Nat × Entity)} (hl : (l.map b.location).Nodup) {x : Nat × Entity}
    (hx : x ∈ l) (images : Gallery) :
    (b.make p Gallery.put images l).1.get? (b.location x) = some (b.drawing p x.1).toDot := by
  induction l generalizing images with
  | nil => cases hx
  | cons y l ih =>
    rw [List.map_cons, List.nodup_cons] at hl
    rw [make_put_cons]
    rcases List.mem_cons.mp hx with rfl | hx
    · rw [get?_make_of_notMem hl.1, Index.get?_insert_self]
    · exact ih hl.2 hx _

end Keep

/-! ## Images apart -/

/-- Whether no two images of a batch have names that look alike. -/
def NamesApart (b : Batch) (p : Projection) : Prop :=
  (b.eligible p).Pairwise fun x y => ¬Alike x.2.dotted y.2.dotted

/-- A name without odd characters, and without a dot after the container. -/
def IsPlain (e : Entity) : Prop :=
  e.dotted.toList.all isSafe = true ∧ '.' ∉ e.baseName.toList

instance (e : Entity) : Decidable (IsPlain e) :=
  inferInstanceAs (Decidable (_ ∧ _))

theorem map_clean_of_safe {s : List Char} (h : s.all isSafe = true) : s.map clean = s := by
  rw [List.all_eq_true] at h
  have hself : s.map clean = s.map id := List.map_congr_left fun c hc => if_pos (h c hc)
  rw [hself, List.map_id]

/-- A text is cut in one way only at its last dot. -/
theorem cut_unique {s s' t t' : List Char} (ht : '.' ∉ t) (ht' : '.' ∉ t')
    (h : s ++ '.' :: t = s' ++ '.' :: t') : s = s' ∧ t = t' := by
  -- a cut further to the left leaves a dot on its right
  have hnil : ∀ {a t t' : List Char}, '.' ∉ t → '.' :: t = a ++ '.' :: t' → a = [] := by
    intro a t t' ht ha
    cases a with
    | nil => rfl
    | cons c a =>
      rw [List.cons_append, List.cons.injEq] at ha
      exact absurd (ha.2 ▸ List.mem_append_right _ List.mem_cons_self) ht
  rcases List.append_eq_append_iff.mp h with ⟨a, rfl, ha⟩ | ⟨a, rfl, ha⟩
  · obtain rfl := hnil ht ha
    simpa using ha
  · obtain rfl := hnil ht' ha
    simpa using ha.symm

/-- Plain names that look alike are the same, in the same container. -/
theorem keys_eq_of_alike {e d : Entity} (he : IsPlain e) (hd : IsPlain d)
    (h : Alike e.dotted d.dotted) : (e.baseName, e.importPath) = (d.baseName, d.importPath) := by
  have hdotted : ∀ e : Entity, e.dotted.toList =
      e.importPath.toList ++ '.' :: e.baseName.toList := by
    intro e
    simp [Entity.dotted]
  have heq : e.dotted.toList = d.dotted.toList := by
    rw [← map_clean_of_safe he.1, map_clean_eq_iff.mpr h, map_clean_of_safe hd.1]
  rw [hdotted, hdotted] at heq
  obtain ⟨hpath, hname⟩ := cut_unique he.2 hd.2 heq
  rw [String.toList_inj.mp hpath, String.toList_inj.mp hname]

end Batch

/-- Whether name and container together tell entities apart. -/
def Projection.KeysDistinct (p : Projection) : Prop :=
  p.toList.Pairwise fun x y => (x.2.baseName, x.2.importPath) ≠ (y.2.baseName, y.2.importPath)

instance (p : Projection) : Decidable p.KeysDistinct :=
  inferInstanceAs (Decidable (p.toList.Pairwise _))

namespace Batch

theorem namesApart_of_isPlain {b : Batch} {p : Projection} (hkeys : p.KeysDistinct)
    (hplain : ∀ x ∈ b.eligible p, IsPlain x.2) : b.NamesApart p := by
  refine (hkeys.filter _).imp_of_mem fun hx hy hne halike => ?_
  exact hne (keys_eq_of_alike (hplain _ hx) (hplain _ hy) halike)

theorem nodup_locations_iff {b : Batch} {p : Projection} :
    ((b.eligible p).map b.location).Nodup ↔ b.NamesApart p := by
  rw [List.Nodup, List.pairwise_map]
  simp only [location, ne_eq, components_imagePath_eq_iff, NamesApart]

/-- The images of a batch have names of their own if no dotted names look alike, and then every run
that gets its directory reports each path once, whatever fails, and keeps every image. Keys that
tell plain names apart are enough. -/
theorem images_apart_iff (b : Batch) (p : Projection) :
    (((b.eligible p).map fun x => fileName x.2 b.extension).Nodup ↔ b.NamesApart p) ∧
    ((∀ (ρ : Type) (directories : DirectoryMaker ρ) (maker : ImageMaker ρ) (state : ρ) (report),
      (b.run p directories maker state).2 = .ok report →
        (report.written.map Path.components).Nodup) ↔ b.NamesApart p) ∧
    (b.NamesApart p → ∀ (directories : DirectoryMaker Gallery) (images images' : Gallery),
      directories images b.outDir = .ok images' → ∀ x ∈ b.eligible p,
        (b.run p directories Gallery.put images).1.get? (b.location x) =
          some (b.drawing p x.1).toDot) ∧
    (p.KeysDistinct → (∀ x ∈ b.eligible p, IsPlain x.2) → b.NamesApart p) := by
  refine ⟨?_, ⟨?_, ?_⟩, ?_, namesApart_of_isPlain⟩
  · rw [List.Nodup, List.pairwise_map]
    simp only [ne_eq, fileName_eq_iff, NamesApart]
  · intro h
    have hput := h Gallery Gallery.anywhere Gallery.put {} _ (congrArg Prod.snd (run_of_ok rfl))
    rw [b.written_make p (fun _ _ _ => rfl), List.map_map] at hput
    exact nodup_locations_iff.mp hput
  · intro h ρ directories maker state report hreport
    cases hmade : directories state b.outDir with
    | error cause =>
      rw [run_of_error hmade] at hreport
      cases hreport
    | ok state' =>
      rw [run_of_ok hmade] at hreport
      obtain rfl := Except.ok.inj hreport
      have hsub := (b.written_make_sublist p maker state' (b.eligible p)).map Path.components
      rw [List.map_map] at hsub
      exact (nodup_locations_iff.mpr h).sublist hsub
  · intro h directories images images' hmade x hx
    rw [run_of_ok hmade]
    exact get?_make (nodup_locations_iff.mpr h) hx images'

/-- A batch that leaves out names for constructors. -/
def pictures : Batch where
  options := {}
  excluded := ["new"]
  extension := "png"
  outDir := "images"

/-- One name in two containers, and an excluded one that needs no image. -/
def twoLogs : Projection where
  toList := [
    (1, ⟨"log()", "log", .function, "app", "app", none, [[2]]⟩),
    (2, ⟨"log", "log", .method, "app", "app.Sink_1", some 4, []⟩),
    (3, ⟨"new", "new", .method, "app", "app.Sink_1", some 4, []⟩),
    (4, ⟨"Sink_1:", "Sink_1", .classType, "app", "app", none, []⟩)]
  ascending := by decide

theorem images_apart_twoLogs :
    twoLogs.KeysDistinct ∧ (∀ x ∈ pictures.eligible twoLogs, IsPlain x.2) ∧
    (pictures.eligible twoLogs).map (fun x => fileName x.2 "png") =
      ["app.log.png", "app.Sink_1.log.png"] ∧
    ∀ images, ∀ x ∈ pictures.eligible twoLogs,
      (pictures.run twoLogs Gallery.anywhere Gallery.put images).1.get? (pictures.location x) =
        some (pictures.drawing twoLogs x.1).toDot := by
  have hkeys : twoLogs.KeysDistinct := by decide
  have hplain : ∀ x ∈ pictures.eligible twoLogs, IsPlain x.2 := by decide
  obtain ⟨-, -, hkept, hapart⟩ := images_apart_iff pictures twoLogs
  exact ⟨hkeys, hplain, by decide, fun images => hkept (hapart hkeys hplain) _ images images rfl⟩

/-- A function of a library. -/
def libraryFunction (name : String) : Entity :=
  ⟨name ++ "()", name, .function, "lib", "lib", none, []⟩

/-- Two functions whose names differ in a letter that is not safe. -/
def umlauts : Projection where
  toList := [(1, libraryFunction "gä"), (2, libraryFunction "gö")]
  ascending := by decide

/-- Both images go to one path : it is reported twice, and the image of the first function
is lost. -/
theorem images_collide :
    umlauts.KeysDistinct ∧
    (pictures.eligible umlauts).map (fun x => fileName x.2 "png") = ["lib.g_.png", "lib.g_.png"] ∧
    (∃ report, (pictures.run umlauts Gallery.anywhere Gallery.put {}).2 = .ok report ∧
      ¬report.written.Nodup) ∧
    (pictures.run umlauts Gallery.anywhere Gallery.put {}).1.get?
        (pictures.location (1, libraryFunction "gä")) =
      some (pictures.drawing umlauts 2).toDot := by
  have hname : fileName (libraryFunction "gä") "png" = fileName (libraryFunction "gö") "png" := by
    decide
  have hpath : pictures.imagePath (libraryFunction "gä") =
      pictures.imagePath (libraryFunction "gö") :=
    congrArg (Path.join "images") hname
  have heligible : pictures.eligible umlauts = umlauts.toList := by decide
  refine ⟨by decide, by decide, ⟨_, congrArg Prod.snd (run_of_ok rfl), ?_⟩, ?_⟩
  · rw [written_make _ _ (fun _ _ _ => rfl), heligible]
    simp [umlauts, hpath]
  · rw [run_of_ok rfl, heligible, umlauts, make_put_cons, make_put_cons, location, hpath]
    exact Index.get?_insert_self

end Batch

end CallAtlas
