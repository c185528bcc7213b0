import CallAtlas.Proofs.AskedFrames

/-!
# Clusters in the making

While clusters are made, they are found by position, and what is nested in a cluster is added to
it later. `ClusterSet.Lays` says what this comes to : the clusters are the frames that were asked
for so far, with the nodes put there so far, each with the positions of the frames at home in it,
and the indexes find what a search of the frames finds. Every way to ask for a cluster or to add a
node keeps this (`Lays.file`, `Lays.classBody`, `Lays.addNode`), so it holds after every entity
(`Projection.lays_place`, `Projection.lays_foldl`). A drawing therefore has the clusters of its
frames (`Projection.clusters_draw`), and its roots are the files (`Projection.roots_draw`).
-/

namespace CallAtlas

/-! ## Positions -/

section Positions

variable {α β κ : Type}

/-- The positions of the members of a list that pass a test. -/
def positions (q : α → Bool) (l : List α) : List Nat :=
  (l.zipIdx.filter (q ·.1)).map (·.2)

theorem positions_concat (q : α → Bool) (l : List α) (a : α) :
    positions q (l ++ [a]) = positions q l ++ if q a then [l.length] else [] := by
  rw [positions, List.zipIdx_append, List.filter_append, List.map_append, positions]
  cases hq : q a <;> simp [hq]

theorem mem_positions {q : α → Bool} {l : List α} {k : Nat} :
    k ∈ positions q l ↔ ∃ a, l[k]? = some a ∧ q a = true := by
  simp only [positions, List.mem_map, List.mem_filter, List.mem_zipIdx_iff_getElem?]
  constructor
  · rintro ⟨⟨a, k⟩, ⟨ha, hq⟩, rfl⟩
    exact ⟨a, ha, hq⟩
  · rintro ⟨a, ha, hq⟩
    exact ⟨(a, k), ⟨ha, hq⟩, rfl⟩

theorem nodup_positions (q : α → Bool) (l : List α) : (positions q l).Nodup := by
  have hall : (l.zipIdx.map (·.2)).Nodup := by
    rw [List.zipIdx_map_snd]
    exact List.nodup_range'
  exact hall.sublist (List.filter_sublist.map _)

theorem positions_eq_nil {q : α → Bool} {l : List α} (h : ∀ a ∈ l, q a = false) :
    positions q l = [] := by
  refine List.eq_nil_iff_forall_not_mem.mpr fun k hk => ?_
  obtain ⟨a, ha, hq⟩ := mem_positions.mp hk
  rw [h a (List.mem_of_getElem? ha)] at hq
  cases hq

/-- What is found at the positions of a test passes it. -/
theorem filterMap_positions (q : α → Bool) (l : List α) :
    (positions q l).filterMap (l[·]?) = l.filter q := by
  have hget : ∀ x ∈ l.zipIdx.filter (q ·.1), l[x.2]? = some x.1 := fun x hx =>
    List.mem_zipIdx_iff_getElem?.mp (List.mem_of_mem_filter hx)
  calc (positions q l).filterMap (l[·]?)
      = (l.zipIdx.filter (q ·.1)).filterMap fun x => l[x.2]? := List.filterMap_map
    _ = (l.zipIdx.filter (q ·.1)).map (·.1) := by
        rw [List.filterMap_congr hget]
        exact congrFun List.filterMap_eq_map _
    _ = (l.zipIdx.map (·.1)).filter q := List.filter_map.symm
    _ = l.filter q := by rw [List.zipIdx_map_fst]

theorem filterMap_range (l : List α) : (List.range l.length).filterMap (l[·]?) = l := by
  have hall : List.range l.length = positions (fun _ => true) l := by
    rw [positions, List.filter_true, List.zipIdx_map_snd, List.range_eq_range']
  rw [hall, filterMap_positions, List.filter_true]

theorem modify_append_of_lt {l m : List α} {i : Nat} (h : i < l.length) (f : α → α) :
    (l ++ m).modify i f = l.modify i f ++ m := by
  induction l generalizing i with
  | nil => cases h
  | cons a l ih =>
    cases i with
    | zero => rfl
    | succ i => simp [ih (Nat.lt_of_succ_lt_succ h)]

variable [BEq κ] [LawfulBEq κ] (key : α → κ)

/-- With distinct keys, to change what is found under a key is to change what has the key. -/
theorem modify_findIdx? {l : List α} {k : κ} {i : Nat} (h : (l.map key).Nodup)
    (hi : l.findIdx? (key · == k) = some i) (g : α → β) (f : β → β) :
    (l.map g).modify i f = l.map fun a => if key a == k then f (g a) else g a := by
  induction l generalizing i with
  | nil => cases hi
  | cons a l ih =>
    obtain ⟨ha, hl⟩ := List.nodup_cons.mp h
    rw [List.findIdx?_cons] at hi
    by_cases hk : key a = k
    · have hothers : ∀ b ∈ l, (if key b == k then f (g b) else g b) = g b := by
        intro b hb
        have hne : key b ≠ k := fun hbk => ha (hk.trans hbk.symm ▸ List.mem_map_of_mem hb)
        simp [hne]
      obtain rfl : i = 0 := by simpa [hk] using hi.symm
      rw [List.map_cons, List.modify_zero_cons, List.map_cons, if_pos (beq_iff_eq.mpr hk),
        List.map_congr_left hothers]
    · simp only [beq_eq_false_iff_ne.mpr hk, Bool.false_eq_true, if_false,
        Option.map_eq_some_iff] at hi
      obtain ⟨i, hi, rfl⟩ := hi
      rw [List.map_cons, List.modify_succ_cons, ih hl hi, List.map_cons, if_neg (by simpa using hk)]

theorem findIdx?_concat_of_notMem {l : List α} {a : α} (h : key a ∉ l.map key) :
    (l ++ [a]).findIdx? (key · == key a) = some l.length := by
  have hnone : l.findIdx? (key · == key a) = none := by
    rw [List.findIdx?_eq_none_iff]
    intro b hb
    exact beq_eq_false_iff_ne.mpr fun hba => h (hba ▸ List.mem_map_of_mem hb)
  simp [List.findIdx?_append, hnone]

theorem findIdx?_concat_of_ne {l : List α} {a : α} {k : κ} (h : key a ≠ k) :
    (l ++ [a]).findIdx? (key · == k) = l.findIdx? (key · == k) := by
  simp [List.findIdx?_append, h]

theorem notMem_keys_iff_findIdx? {l : List α} {k : κ} :
    k ∉ l.map key ↔ l.findIdx? (key · == k) = none := by
  rw [List.findIdx?_eq_none_iff]
  simp

theorem mem_keys_of_findIdx? {l : List α} {k : κ} {i : Nat}
    (h : l.findIdx? (key · == k) = some i) : k ∈ l.map key := by
  by_contra hk
  rw [(notMem_keys_iff_findIdx? key).mp hk] at h
  cases h

end Positions

/-! ## Clusters in the making -/

open Projection (fileFrame)

/-- Frames are one for each place, and have their homes among them. -/
structure IsFramed (p : Projection) (frames : List Frame) : Prop where
  distinct : (frames.map (·.place)).Nodup
  homes : ∀ f ∈ frames, .file f.home ∈ frames.map (·.place)
  classes : ∀ f ∈ frames, ∀ c, f.place = .classBody c → ∃ asking, f = p.classFrame c asking

namespace IsFramed

variable {p : Projection} {frames : List Frame} (h : IsFramed p frames)
include h

/-- A new frame may come once its home is there. -/
theorem concat {g : Frame} (hnew : g.place ∉ frames.map (·.place))
    (hhome : .file g.home ∈ (frames ++ [g]).map (·.place))
    (hclass : ∀ c, g.place = .classBody c → ∃ asking, g = p.classFrame c asking) :
    IsFramed p (frames ++ [g]) where
  distinct := by
    rw [List.map_append, List.map_singleton, ← List.concat_eq_append, List.nodup_concat]
    exact ⟨hnew, h.distinct⟩
  homes f hf := by
    rcases List.mem_append.mp hf with hf | hf
    · rw [List.map_append]
      exact List.mem_append_left _ (h.homes f hf)
    · rw [List.mem_singleton.mp hf]
      exact hhome
  classes f hf c hc := by
    rcases List.mem_append.mp hf with hf | hf
    · exact h.classes f hf c hc
    · rw [List.mem_singleton.mp hf] at hc ⊢
      exact hclass c hc

/-- Nothing is at home where there is no cluster. -/
theorem positions_outer_of_new {place : Place} (hnew : place ∉ frames.map (·.place)) :
    positions (·.outer == some place) frames = [] := by
  refine positions_eq_nil fun f hf => beq_eq_false_iff_ne.mpr fun houter => ?_
  rw [Frame.outer] at houter
  split at houter
  · cases houter
  · exact hnew (Option.some.inj houter ▸ h.homes f hf)

end IsFramed

/-- The cluster of a frame among frames, with its part of the nodes. -/
def Projection.laid (frames : List Frame) (nodes : List (Place × Node)) (f : Frame) : Cluster where
  place := f.place
  label := f.label
  nodes := (nodes.filter (·.1 == f.place)).map (·.2)
  children := positions (·.outer == some f.place) frames

open Projection (laid)

namespace ClusterSet

/-- The clusters are those of frames, with nodes at their places. -/
structure Lays (p : Projection) (s : ClusterSet) (frames : List Frame)
    (nodes : List (Place × Node)) : Prop where
  framed : IsFramed p frames
  housed : ∀ x ∈ nodes, x.1 ∈ frames.map (·.place)
  clusters : s.clusters = frames.map (laid frames nodes)
  roots : s.roots = positions (·.place.isFile) frames
  byFile : ∀ path, s.byFile.get? path = frames.findIdx? (·.place == .file path)
  byClass : ∀ c, s.byClass.get? c = frames.findIdx? (·.place == .classBody c)

variable {p : Projection} {s : ClusterSet} {frames : List Frame} {nodes : List (Place × Node)}

namespace Lays

theorem empty : Lays p .empty [] [] :=
  ⟨⟨.nil, nofun, nofun⟩, nofun, rfl, rfl, fun _ => rfl, fun _ => rfl⟩

variable (h : Lays p s frames nodes)
include h

theorem length_clusters : s.clusters.length = frames.length := by
  rw [h.clusters, List.length_map]

theorem housed_concat (g : Frame) : ∀ x ∈ nodes, x.1 ∈ (frames ++ [g]).map (·.place) := by
  intro x hx
  rw [List.map_append]
  exact List.mem_append_left _ (h.housed x hx)

/-- A new frame starts as a cluster without nodes and children. -/
theorem laid_new {g : Frame} (hnew : g.place ∉ frames.map (·.place)) (hg : g.outer ≠ some g.place) :
    laid (frames ++ [g]) nodes g = { place := g.place, label := g.label } := by
  have hnodes : nodes.filter (·.1 == g.place) = [] :=
    List.filter_eq_nil_iff.mpr fun x hx hplace => hnew (beq_iff_eq.mp hplace ▸ h.housed x hx)
  rw [laid, positions_concat, h.framed.positions_outer_of_new hnew, hnodes,
    beq_eq_false_iff_ne.mpr hg]
  rfl

/-- The index of files goes on with a new frame. -/
theorem byFile_concat {g : Frame} {path : String} (hg : g.place ≠ .file path) :
    s.byFile.get? path = (frames ++ [g]).findIdx? (·.place == .file path) := by
  rw [findIdx?_concat_of_ne _ hg, h.byFile]

theorem byClass_concat {g : Frame} {c : Nat} (hg : g.place ≠ .classBody c) :
    s.byClass.get? c = (frames ++ [g]).findIdx? (·.place == .classBody c) := by
  rw [findIdx?_concat_of_ne _ hg, h.byClass]

/-- The cluster of a file that has none comes as a root. -/
theorem addFile {path : String} (hnew : (fileFrame path).place ∉ frames.map (·.place)) :
    Lays p (s.addFile path) (frames ++ [fileFrame path]) nodes where
  framed := h.framed.concat hnew (by simp [fileFrame]) nofun
  housed := h.housed_concat _
  clusters := by
    have hlaid : ∀ f ∈ frames, laid (frames ++ [fileFrame path]) nodes f = laid frames nodes f := by
      intro f _
      have hroot : ((fileFrame path).outer == some f.place) = false := rfl
      rw [laid, laid, positions_concat, hroot]
      simp
    rw [List.map_append, List.map_congr_left hlaid, ← h.clusters, List.map_singleton,
      h.laid_new hnew nofun]
    rfl
  roots := by
    rw [positions_concat, ← h.length_clusters, ← h.roots]
    rfl
  byFile path' := by
    change (s.byFile.insert path s.clusters.length).get? path' = _
    rw [Index.get?_insert]
    split
    · rename_i heq
      rw [heq, h.length_clusters]
      exact (findIdx?_concat_of_notMem Frame.place hnew).symm
    · rename_i hne
      exact h.byFile_concat fun heq => hne (Place.file.inj heq).symm
  byClass c := h.byClass_concat nofun

/-- A file is asked for. -/
theorem file (path : String) :
    Lays p (s.file path).1 (keepNew (·.place) frames (fileFrame path)) nodes ∧
      (keepNew (·.place) frames (fileFrame path)).findIdx? (·.place == .file path) =
        some (s.file path).2 := by
  unfold ClusterSet.file
  cases hk : s.byFile.get? path with
  | some k =>
    rw [h.byFile] at hk
    have hmem : (fileFrame path).place ∈ frames.map (·.place) := mem_keys_of_findIdx? _ hk
    rw [keepNew_of_mem _ hmem]
    exact ⟨h, hk⟩
  | none =>
    rw [h.byFile] at hk
    have hnew : (fileFrame path).place ∉ frames.map (·.place) :=
      (notMem_keys_iff_findIdx? _).mpr hk
    rw [keepNew_of_notMem _ hnew]
    refine ⟨h.addFile hnew, ?_⟩
    rw [h.length_clusters]
    exact findIdx?_concat_of_notMem Frame.place hnew

/-- The cluster of a class that has none is nested in that of its home. -/
theorem addClass {g : Frame} {c : Nat} {asking : String} (hg : g = p.classFrame c asking)
    (hnew : g.place ∉ frames.map (·.place)) {parent : Nat}
    (hparent : frames.findIdx? (·.place == .file g.home) = some parent)
    (hlt : parent < s.clusters.length) :
    Lays p (s.addClass c g.label parent hlt) (frames ++ [g]) nodes := by
  have hplace : g.place = .classBody c := hg ▸ p.place_classFrame c asking
  have houter : g.outer = some (.file g.home) := by simp [Frame.outer, hplace, Place.isFile]
  have hhome : .file g.home ∈ frames.map (·.place) := mem_keys_of_findIdx? _ hparent
  refine ⟨h.framed.concat hnew ?_ fun c' hc' => ?_, h.housed_concat g, ?_, ?_,
    fun path => ?_, fun c' => ?_⟩
  · rw [List.map_append]
    exact List.mem_append_left _ hhome
  · rw [← Place.classBody.inj (hplace.symm.trans hc')]
    exact ⟨asking, hg⟩
  · -- the new position joins the children of the cluster of the home, and of no other
    have hlaid : ∀ f ∈ frames, (if f.place == .file g.home
        then { laid frames nodes f with
          children := (laid frames nodes f).children ++ [s.clusters.length] }
        else laid frames nodes f) = laid (frames ++ [g]) nodes f := by
      intro f _
      rw [h.length_clusters]
      simp only [laid, positions_concat, houter]
      by_cases hf : f.place = .file g.home
      · simp [hf]
      · simp [hf, Ne.symm hf]
    change
      (s.clusters ++ [{ place := .classBody c, label := g.label : Cluster }]).modify parent _ = _
    rw [modify_append_of_lt hlt, h.clusters, modify_findIdx? Frame.place h.framed.distinct hparent,
      ← h.clusters, List.map_congr_left hlaid, List.map_append, List.map_singleton,
      h.laid_new hnew ?_, hplace]
    rw [houter, hplace]
    nofun
  · rw [positions_concat, ← h.roots, hplace]
    exact (List.append_nil _).symm
  · exact h.byFile_concat (hplace ▸ nofun)
  · change (s.byClass.insert c s.clusters.length).get? c' = _
    rw [Index.get?_insert]
    split
    · rename_i heq
      rw [heq, h.length_clusters, ← hplace]
      exact (findIdx?_concat_of_notMem Frame.place hnew).symm
    · rename_i hne
      exact h.byClass_concat fun heq => hne (Place.classBody.inj (hplace.symm.trans heq)).symm

end Lays

end ClusterSet

/-- A class has its home in the file that asks for it, or where it had its home before. -/
theorem IsFramed.home_mem {p : Projection} {frames : List Frame} (h : IsFramed p frames) {c : Nat}
    {asking : String} (hc : .classBody c ∈ frames.map (·.place))
    (hasking : .file asking ∈ frames.map (·.place)) :
    .file (p.classFrame c asking).home ∈ frames.map (·.place) := by
  obtain ⟨f, hf, hplace⟩ := List.mem_map.mp hc
  obtain ⟨asking', rfl⟩ := h.classes f hf c hplace
  have hhome := h.homes _ hf
  simp only [Projection.classFrame, Projection.homeOf] at hhome ⊢
  cases hget : p.get? c with
  | none => exact hasking
  | some e => simpa only [hget] using hhome

namespace ClusterSet

theorem byClass_file (s : ClusterSet) (path : String) : (s.file path).1.byClass = s.byClass := by
  unfold file
  split <;> rfl

namespace Lays

variable {p : Projection} {s : ClusterSet} {frames : List Frame} {nodes : List (Place × Node)}
  (h : Lays p s frames nodes)
include h

/-- A class is asked for. -/
theorem classBody {c : Nat} {asking : String} (hasking : .file asking ∈ frames.map (·.place)) :
    Lays p (s.classBody p c asking).1 ((p.nested c asking).foldl (keepNew (·.place)) frames) nodes ∧
      ((p.nested c asking).foldl (keepNew (·.place)) frames).findIdx? (·.place == .classBody c) =
        some (s.classBody p c asking).2 := by
  unfold ClusterSet.classBody
  simp only [Projection.nested, List.foldl_cons, List.foldl_nil]
  cases hk : s.byClass.get? c with
  | some k =>
    rw [h.byClass] at hk
    have hc : .classBody c ∈ frames.map (·.place) := mem_keys_of_findIdx? _ hk
    have hhome : (fileFrame (p.classFrame c asking).home).place ∈ frames.map (·.place) :=
      h.framed.home_mem hc hasking
    rw [keepNew_of_mem (a := fileFrame _) _ hhome, keepNew_of_mem _ hc]
    exact ⟨h, hk⟩
  | none =>
    -- the file around the class is asked for first, and leaves the classes alone
    obtain ⟨hfile, hparent⟩ := h.file (p.classFrame c asking).home
    have hnew : (p.classFrame c asking).place ∉
        (keepNew (·.place) frames (fileFrame (p.classFrame c asking).home)).map (·.place) := by
      rw [notMem_keys_iff_findIdx?, Projection.place_classFrame, ← hfile.byClass, byClass_file, hk]
    rw [keepNew_of_notMem _ hnew]
    refine ⟨hfile.addClass rfl hnew hparent (s.file_lt _), ?_⟩
    change _ = some (s.file (p.classFrame c asking).home).1.clusters.length
    rw [hfile.length_clusters]
    exact findIdx?_concat_of_notMem Frame.place hnew

/-- A node is added where the cluster of its place is found. -/
theorem addNode {place : Place} {k : Nat} (hk : frames.findIdx? (·.place == place) = some k)
    (n : Node) : Lays p (s.addNode k n) frames (nodes ++ [(place, n)]) where
  framed := h.framed
  housed x hx := by
    rcases List.mem_append.mp hx with hx | hx
    · exact h.housed x hx
    · rw [List.mem_singleton.mp hx]
      exact mem_keys_of_findIdx? _ hk
  clusters := by
    have hlaid : ∀ f ∈ frames, (if f.place == place
        then { laid frames nodes f with nodes := (laid frames nodes f).nodes ++ [n] }
        else laid frames nodes f) = laid frames (nodes ++ [(place, n)]) f := by
      intro f _
      by_cases hf : f.place = place
      · simp [laid, hf, List.filter_append]
      · simp [laid, hf, Ne.symm hf, List.filter_append]
    change s.clusters.modify k _ = _
    rw [h.clusters, modify_findIdx? Frame.place h.framed.distinct hk, List.map_congr_left hlaid]
  roots := h.roots
  byFile := h.byFile
  byClass := h.byClass

/-- The cluster around an entity is asked for. -/
theorem enclosing (e : Entity) :
    let asked := fileFrame e.file :: (e.owner.map (p.nested · e.file)).getD []
    let place := match e.owner with
      | some c => Place.classBody c
      | none => .file e.file
    Lays p (s.enclosing p e).1 (asked.foldl (keepNew (·.place)) frames) nodes ∧
      (asked.foldl (keepNew (·.place)) frames).findIdx? (·.place == place) =
        some (s.enclosing p e).2 := by
  obtain ⟨hfile, hk⟩ := h.file e.file
  rw [ClusterSet.enclosing]
  cases e.owner with
  | none => exact ⟨hfile, hk⟩
  | some c => exact hfile.classBody (mem_keys_keepNew _ frames (fileFrame e.file))

end Lays

end ClusterSet

namespace Projection

variable {p : Projection} {o : DrawOptions} {s : Canvas} {frames : List Frame}
  {nodes : List (Place × Node)}

/-- The node of an entity at its place, if it has one. -/
def placed (o : DrawOptions) (x : Nat × Entity) : List (Place × Node) :=
  if isDrawn o x.2 then [(placeOf x.1 x.2, nodeOf o x.1 x.2)] else []

/-- An entity is put into its cluster. -/
theorem lays_place (h : s.clusters.Lays p frames nodes) (x : Nat × Entity) :
    (p.place o s x.1 x.2).clusters.Lays p ((p.askedBy x.1 x.2).foldl (keepNew (·.place)) frames)
      (nodes ++ placed o x) := by
  obtain ⟨i, e⟩ := x
  obtain ⟨haround, htarget⟩ := h.enclosing e
  rw [place, askedBy, ← List.cons_append, List.foldl_append, placed, isDrawn, placeOf, nodeOf]
  by_cases hkind : e.kind = .classType
  · have hasking := mem_keys_foldl_keepNew (·.place)
      (mem_keys_keepNew (·.place) frames (fileFrame e.file))
      ((e.owner.map (p.nested · e.file)).getD [])
    obtain ⟨hbody, hown⟩ := haround.classBody (c := i) hasking
    simp only [hkind, if_true, decide_true, Bool.true_and]
    cases o.suppressClasses with
    | true => simpa using hbody
    | false => exact hbody.addNode hown _
  · simp only [hkind, if_false, decide_false, Bool.false_and]
    exact haround.addNode htarget _

/-- The clusters after some entities are those that they ask for, with their nodes. -/
theorem lays_foldl (p : Projection) (o : DrawOptions) (l : List (Nat × Entity)) :
    (l.foldl (fun s x => p.place o s x.1 x.2) {}).clusters.Lays p (p.framesOf l)
      (l.flatMap (placed o)) := by
  induction l using List.reverseRecOn with
  | nil => exact .empty
  | append_singleton l x ih =>
    rw [List.foldl_append, List.foldl_cons, List.foldl_nil, framesOf, List.flatMap_append,
      keepFirst_append, List.flatMap_singleton, List.flatMap_append, List.flatMap_singleton]
    exact lays_place ih x

theorem lays_canvas (p : Projection) (o : DrawOptions) :
    (p.canvas o).clusters.Lays p p.frames (p.toList.flatMap (placed o)) :=
  p.lays_foldl o p.toList

/-! ## Drawings -/

/-- The nodes at a place, by ascending id. -/
def nodesAt (p : Projection) (o : DrawOptions) (place : Place) : List Node :=
  ((p.toList.flatMap (placed o)).filter (·.1 == place)).map (·.2)

/-- The cluster of a frame. -/
def clusterOf (p : Projection) (o : DrawOptions) (f : Frame) : Cluster where
  place := f.place
  label := f.label
  nodes := p.nodesAt o f.place
  children := positions (·.outer == some f.place) p.frames

/-- A drawing has the clusters of its frames. -/
theorem clusters_draw (p : Projection) (o : DrawOptions) :
    (p.draw o).clusters = p.frames.map (p.clusterOf o) :=
  (p.lays_canvas o).clusters

/-- The roots of a drawing are its files. -/
theorem roots_draw (p : Projection) (o : DrawOptions) :
    (p.draw o).roots = positions (·.place.isFile) p.frames :=
  (p.lays_canvas o).roots

/-- An entity that is put into its cluster has a node after that if it is drawn. -/
theorem drawn_place (p : Projection) (o : DrawOptions) (s : Canvas) (i : Nat) (e : Entity) :
    (p.place o s i e).drawn = if isDrawn o e then s.drawn.insert i else s.drawn := by
  rw [place, isDrawn]
  by_cases hkind : e.kind = .classType
  · simp only [hkind, if_true, decide_true, Bool.true_and]
    cases o.suppressClasses <;> rfl
  · simp only [hkind, if_false, decide_false, Bool.false_and]
    rfl

theorem mem_drawn_foldl (p : Projection) (o : DrawOptions) (l : List (Nat × Entity)) (v : Nat) :
    v ∈ (l.foldl (fun s x => p.place o s x.1 x.2) {}).drawn ↔
      ∃ x ∈ l, x.1 = v ∧ isDrawn o x.2 = true := by
  induction l using List.reverseRecOn with
  | nil => simp
  | append_singleton l x ih =>
    rw [List.foldl_append, List.foldl_cons, List.foldl_nil, drawn_place]
    simp only [List.mem_append, List.mem_singleton, or_and_right, exists_or, exists_eq_left]
    cases hdrawn : isDrawn o x.2 with
    | true => rw [if_pos rfl, IdSet.mem_insert, ih, or_comm, eq_comm, and_iff_left rfl]
    | false => simp [ih]

/-- The entities with a node are those that are drawn. -/
theorem mem_drawn_canvas {p : Projection} {o : DrawOptions} {v : Nat} :
    v ∈ (p.canvas o).drawn ↔ ∃ e, p.get? v = some e ∧ isDrawn o e = true := by
  rw [canvas, mem_drawn_foldl]
  constructor
  · rintro ⟨⟨v, e⟩, hx, rfl, hdrawn⟩
    exact ⟨e, IdMap.get?_eq_some_iff.mpr hx, hdrawn⟩
  · rintro ⟨e, he, hdrawn⟩
    exact ⟨(v, e), IdMap.mem_of_get? he, rfl, hdrawn⟩

theorem mem_drawn_of_mem {p : Projection} {o : DrawOptions} {x : Nat × Entity}
    (hx : x ∈ p.toList) : x.1 ∈ (p.canvas o).drawn ↔ isDrawn o x.2 = true := by
  simp [mem_drawn_canvas, IdMap.get?_eq_some_iff.mpr hx]

end Projection

end CallAtlas
