import Mathlib.Data.List.Nodup
import Mathlib.Tactic.SplitIfs
import CallAtlas.Drawing.Dot
import CallAtlas.Text.Decimal
import CallAtlas.Proofs.DrawnClusters

/-!
# The names of clusters

A file cluster is named for its path and a class cluster for its id, with one word more in front. So
two files never share a name, nor do two classes, but a file whose path is that word and an id has
the name of the class with this id (`Place.clusterName_eq_iff`). A drawing has a cluster for the
file of each entity, for each owner and for each class (`Projection.mem_places`), and this says when
the names of its clusters are distinct (`Projection.nodup_clusterNames_iff`). Quoting keeps names
apart, because a quoted text can be read back (`Dot.readQuoted_escape`).
-/

namespace CallAtlas

/-! ## Quoted texts -/

namespace Dot

/-- How one character of a text is written. -/
def escapeChar (c : Char) : List Char :=
  if c = '\\' then ['\\', '\\']
  else if c = '"' then ['\\', '"']
  else if c = '\n' then ['\\', 'n']
  else [c]

/-- The escapes made one after another leave each other alone, since backslashes come first. -/
theorem escape_eq (s : List Char) : escape s = s.flatMap escapeChar := by
  have hchar (c : Char) : escape [c] = escapeChar c := by
    simp only [escape, replace, escapeChar, List.flatMap_singleton]
    split_ifs with hslash hquote hline
    · rfl
    · subst hquote
      rfl
    · subst hline
      rfl
    · simp [hquote, hline]
  induction s with
  | nil => rfl
  | cons c s ih =>
    have happend (s t : List Char) : escape (s ++ t) = escape s ++ escape t := by
      simp only [escape, replace, List.flatMap_append]
    rw [List.flatMap_cons, ← ih, ← hchar, ← happend, List.singleton_append]

/-- The text up to the closing quote, with its escapes undone, and what comes after. -/
def readQuoted : List Char → Option (List Char × List Char)
  | [] => none
  | '"' :: rest => some ([], rest)
  | '\\' :: 'n' :: rest => (readQuoted rest).map fun (s, after) => ('\n' :: s, after)
  | '\\' :: c :: rest => (readQuoted rest).map fun (s, after) => (c :: s, after)
  | c :: rest => (readQuoted rest).map fun (s, after) => (c :: s, after)

theorem readQuoted_escape (s rest : List Char) :
    readQuoted (escape s ++ '"' :: rest) = some (s, rest) := by
  rw [escape_eq]
  induction s with
  | nil => rfl
  | cons c s ih =>
    rw [List.flatMap_cons, List.append_assoc, escapeChar]
    split_ifs with hslash hquote hline
    · subst hslash
      simp [readQuoted, ih]
    · subst hquote
      simp [readQuoted, ih]
    · subst hline
      simp [readQuoted, ih]
    · simp [readQuoted, hslash, ih]

theorem quoted_injective : Function.Injective quoted := by
  intro s t h
  have hread (s : String) : readQuoted ((quoted s).toList.drop 1) = some (s.toList, []) := by
    simpa [quoted] using readQuoted_escape s.toList []
  have hst : some (s.toList, ([] : List Char)) = some (t.toList, []) := by
    rw [← hread s, ← hread t, h]
  exact String.toList_inj.mp (Prod.mk.inj (Option.some.inj hst)).1

end Dot

/-! ## Names of places -/

namespace Place

/-- Whether a file has the cluster name of a class. -/
def Shadows : Place → Place → Prop
  | .file path, .classBody id => path = "class_" ++ toString id
  | _, _ => False

theorem clusterName_classBody (id : Nat) :
    (classBody id).clusterName = "cluster_" ++ ("class_" ++ toString id) := by
  rw [← String.append_assoc]
  rfl

/-- Two places share a name only if one is a file that shadows the other. -/
theorem clusterName_eq_iff {a b : Place} :
    a.clusterName = b.clusterName ↔ a = b ∨ a.Shadows b ∨ b.Shadows a := by
  cases a with
  | file p =>
    cases b with
    | file q => simp [clusterName, Shadows]
    | classBody d =>
      rw [clusterName_classBody, clusterName, String.append_right_inj]
      simp [Shadows]
  | classBody c =>
    cases b with
    | file q =>
      rw [clusterName_classBody, clusterName, String.append_right_inj, eq_comm]
      simp [Shadows]
    | classBody d =>
      rw [clusterName_classBody, clusterName_classBody, String.append_right_inj,
        String.append_right_inj]
      simp only [Shadows, Text.Decimal.toString_inj, classBody.injEq, or_self, or_false]

theorem Shadows.isFile_ne {a b : Place} (h : a.Shadows b) : a.isFile ≠ b.isFile := by
  cases a with
  | file path =>
    cases b with
    | file => exact h.elim
    | classBody => simp [isFile]
  | classBody id => exact h.elim

end Place

/-! ## Names of the clusters of a drawing -/

namespace Projection

variable {p : Projection}

/-- Whether some file has the cluster name of a class. -/
def HasShadow (p : Projection) : Prop :=
  ∃ a b, p.Houses a ∧ p.Houses b ∧ a.Shadows b

/-- Cluster names are distinct if no file shadows a class. -/
theorem nodup_map_clusterName :
    ((p.frames.map (·.place)).map Place.clusterName).Nodup ↔ ¬p.HasShadow := by
  rw [List.nodup_map_iff_inj_on p.nodup_places]
  constructor
  · rintro hinj ⟨a, b, ha, hb, hab⟩
    have heq : a = b :=
      hinj a (mem_places.mpr ha) b (mem_places.mpr hb)
        (Place.clusterName_eq_iff.mpr (.inr (.inl hab)))
    exact hab.isFile_ne (congrArg Place.isFile heq)
  · intro hshadow a ha b hb hname
    rw [mem_places] at ha hb
    rcases Place.clusterName_eq_iff.mp hname with heq | hab | hba
    · exact heq
    · exact absurd ⟨a, b, ha, hb, hab⟩ hshadow
    · exact absurd ⟨b, a, hb, ha, hba⟩ hshadow

/-- Places of one sort have distinct names. -/
theorem nodup_clusterName_of_sort (p : Projection) (isFile : Bool) :
    (((p.frames.map (·.place)).filter (·.isFile == isFile)).map Place.clusterName).Nodup := by
  rw [List.nodup_map_iff_inj_on (p.nodup_places.filter _)]
  intro a ha b hb hname
  have hsort : a.isFile = b.isFile := by
    rw [beq_iff_eq.mp (List.mem_filter.mp ha).2, beq_iff_eq.mp (List.mem_filter.mp hb).2]
  rcases Place.clusterName_eq_iff.mp hname with heq | hab | hba
  · exact heq
  · exact absurd hsort hab.isFile_ne
  · exact absurd hsort.symm hba.isFile_ne

/-- The names of the clusters of a drawing are distinct, and so are the names as they are
written, unless a file has the name of a class. Names of files are always distinct, and so are
those of classes. -/
theorem nodup_clusterNames_iff (p : Projection) (o : DrawOptions) :
    (((p.draw o).clusters.map (·.place.clusterName)).Nodup ↔ ¬p.HasShadow) ∧
    (((p.draw o).clusters.map fun c => Dot.quoted c.place.clusterName).Nodup ↔ ¬p.HasShadow) ∧
    ∀ isFile : Bool,
      (((p.draw o).clusters.filter (·.place.isFile == isFile)).map
        (·.place.clusterName)).Nodup := by
  have hnames : (p.draw o).clusters.map (·.place.clusterName) =
      (p.frames.map (·.place)).map Place.clusterName := by
    rw [← p.map_place_clusters o, List.map_map]
    rfl
  have hwritten : (p.draw o).clusters.map (fun c => Dot.quoted c.place.clusterName) =
      ((p.draw o).clusters.map (·.place.clusterName)).map Dot.quoted := by
    rw [List.map_map]
    rfl
  rw [hwritten, List.nodup_map_iff Dot.quoted_injective, hnames]
  refine ⟨nodup_map_clusterName, nodup_map_clusterName, fun isFile => ?_⟩
  have hsort := p.nodup_clusterName_of_sort isFile
  rw [← p.map_place_clusters o, List.filter_map, List.map_map] at hsort
  exact hsort

/-- One class in a file with the word for classes and the id of the class in its path. -/
def shadowed : Projection where
  toList := [(1, ⟨"C:", "C", .classType, "class_1", "class_1", none, []⟩)]
  ascending := by decide

/-- The file and the class in it are drawn as one cluster inside itself. -/
theorem clusterNames_clash :
    (shadowed.draw {}).clusters.map (·.place.clusterName) = ["cluster_class_1", "cluster_class_1"] ∧
    ¬((shadowed.draw {}).clusters.map (·.place.clusterName)).Nodup := by
  decide

end Projection

end CallAtlas
