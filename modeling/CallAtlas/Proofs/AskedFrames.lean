import Mathlib.Data.List.Induction
import Mathlib.Data.List.Nodup
import CallAtlas.Drawing.Layout

/-!
# The frames that a projection asks for

A cluster is asked for as a `Frame` : the place that it stands for, its label, and the file that it
is at home in. A projection asks for frames by ascending id, and the first frame of each place
counts, so there is one for each place (`Projection.nodup_places`). The home of each class is among
them (`Projection.home_mem_frames`), and they stand for the files of the entities and the classes
that these ask for (`Projection.mem_places`).
-/

namespace CallAtlas

/-! ## The first of each key -/

section KeepFirst

variable {α β κ : Type} [BEq κ] [LawfulBEq κ] (key : α → κ)

/-- Add a member to those kept so far, unless its key is there. -/
def keepNew (kept : List α) (a : α) : List α :=
  if kept.any (key · == key a) then kept else kept ++ [a]

/-- Keep the first member of a list for each key. -/
def keepFirst (l : List α) : List α :=
  l.foldl (keepNew key) []

theorem keepNew_of_mem {kept : List α} {a : α} (h : key a ∈ kept.map key) :
    keepNew key kept a = kept :=
  if_pos (by simpa using h)

theorem keepNew_of_notMem {kept : List α} {a : α} (h : key a ∉ kept.map key) :
    keepNew key kept a = kept ++ [a] :=
  if_neg (by simpa using h)

omit [LawfulBEq κ] in
/-- What is kept stays. -/
theorem mem_keys_foldl_keepNew {kept : List α} {k : κ} (h : k ∈ kept.map key) (l : List α) :
    k ∈ (l.foldl (keepNew key) kept).map key := by
  induction l generalizing kept with
  | nil => exact h
  | cons a l ih =>
    refine ih ?_
    rw [keepNew]
    split
    · exact h
    · rw [List.map_append]
      exact List.mem_append_left _ h

theorem mem_keys_keepNew (kept : List α) (a : α) : key a ∈ (keepNew key kept a).map key := by
  by_cases h : key a ∈ kept.map key
  · rwa [keepNew_of_mem key h]
  · simp [keepNew_of_notMem key h]

omit [LawfulBEq κ] in
theorem keepFirst_append (l m : List α) :
    keepFirst key (l ++ m) = m.foldl (keepNew key) (keepFirst key l) :=
  List.foldl_append

theorem keepFirst_concat (l : List α) (a : α) : keepFirst key (l ++ [a]) =
    if key a ∈ (keepFirst key l).map key then keepFirst key l else keepFirst key l ++ [a] := by
  rw [keepFirst_append, List.foldl_cons, List.foldl_nil]
  split
  · rename_i h
    exact keepNew_of_mem key h
  · rename_i h
    exact keepNew_of_notMem key h

/-- Every key has its first member. -/
theorem mem_keys_keepFirst {l : List α} {k : κ} :
    k ∈ (keepFirst key l).map key ↔ k ∈ l.map key := by
  induction l using List.reverseRecOn with
  | nil => rfl
  | append_singleton l a ih =>
    rw [keepFirst_concat, List.map_append, List.mem_append, ← ih]
    split
    · rename_i ha
      exact ⟨.inl, fun h => h.elim id fun h => by simpa [List.mem_singleton.mp h] using ha⟩
    · rw [List.map_append, List.mem_append]

theorem nodup_keys_keepFirst (l : List α) : ((keepFirst key l).map key).Nodup := by
  induction l using List.reverseRecOn with
  | nil => exact .nil
  | append_singleton l a ih =>
    rw [keepFirst_concat]
    split
    · exact ih
    · rename_i ha
      rw [List.map_append, List.nodup_append]
      refine ⟨ih, List.nodup_singleton _, fun k hk j hj => ?_⟩
      rw [List.mem_singleton.mp hj]
      rintro rfl
      exact ha hk

theorem mem_of_mem_keepFirst {l : List α} {a : α} (h : a ∈ keepFirst key l) : a ∈ l := by
  induction l using List.reverseRecOn with
  | nil => cases h
  | append_singleton l b ih =>
    rw [keepFirst_concat] at h
    split at h
    · exact List.mem_append_left _ (ih h)
    · rcases List.mem_append.mp h with h | h
      · exact List.mem_append_left _ (ih h)
      · exact List.mem_append_right _ h

/-- A map that respects the keys respects who is first. -/
theorem map_keepFirst (key' : β → κ) {f : α → β} (hf : ∀ a, key' (f a) = key a) (l : List α) :
    (keepFirst key l).map f = keepFirst key' (l.map f) := by
  have hkeys : ∀ m : List α, (m.map f).map key' = m.map key := fun m => by
    rw [List.map_map]
    exact List.map_congr_left fun a _ => hf a
  induction l using List.reverseRecOn with
  | nil => rfl
  | append_singleton l a ih =>
    rw [List.map_append, List.map_singleton, keepFirst_concat, keepFirst_concat, ← ih, hkeys, hf]
    split
    · rfl
    · rw [List.map_append, List.map_singleton]

/-- A test of the keys does not change who is first. -/
theorem filter_keepFirst (q : κ → Bool) (l : List α) :
    (keepFirst key l).filter (q ∘ key) = keepFirst key (l.filter (q ∘ key)) := by
  induction l using List.reverseRecOn with
  | nil => rfl
  | append_singleton l a ih =>
    rw [keepFirst_concat, List.filter_append]
    by_cases hq : q (key a) = true
    · have hsame : key a ∈ (keepFirst key (l.filter (q ∘ key))).map key ↔
          key a ∈ (keepFirst key l).map key := by
        rw [← ih]
        simp only [List.mem_map, List.mem_filter, Function.comp_apply]
        exact ⟨fun ⟨b, hb, hk⟩ => ⟨b, hb.1, hk⟩, fun ⟨b, hb, hk⟩ => ⟨b, ⟨hb, hk ▸ hq⟩, hk⟩⟩
      rw [List.filter_singleton, Function.comp_apply, hq, cond_true, keepFirst_concat]
      simp only [hsame]
      split
      · exact ih
      · simp [List.filter_append, ih, hq]
    · rw [List.filter_singleton, Function.comp_apply, Bool.eq_false_iff.mpr hq, cond_false,
        List.append_nil]
      split
      · exact ih
      · simp [List.filter_append, ih, hq]

/-- Distinct keys that cover a list divide it into the parts under each key. -/
theorem perm_flatMap_filter {keys : List κ} (hkeys : keys.Nodup) {l : List α}
    (hl : ∀ a ∈ l, key a ∈ keys) : (keys.flatMap fun k => l.filter (key · == k)).Perm l := by
  induction keys generalizing l with
  | nil =>
    obtain rfl : l = [] := List.eq_nil_iff_forall_not_mem.mpr fun a ha => List.not_mem_nil (hl a ha)
    exact .refl _
  | cons k keys ih =>
    obtain ⟨hk, hkeys⟩ := List.nodup_cons.mp hkeys
    have hrest : ∀ a ∈ l.filter (!key · == k), key a ∈ keys := by
      intro a ha
      obtain ⟨ha, hne⟩ := List.mem_filter.mp ha
      exact (List.mem_cons.mp (hl a ha)).resolve_left (by simpa using hne)
    have hparts : (keys.flatMap fun j => l.filter (key · == j)) =
        keys.flatMap fun j => (l.filter (!key · == k)).filter (key · == j) := by
      refine List.flatMap_congr fun j hj => ?_
      have hjk : j ≠ k := fun h => hk (h ▸ hj)
      rw [List.filter_filter]
      refine List.filter_congr fun a _ => ?_
      by_cases ha : key a = j
      · simp [ha, hjk]
      · simp [ha]
    rw [List.flatMap_cons, hparts]
    exact ((ih hkeys hrest).append_left _).trans (List.filter_append_perm (key · == k) l)

end KeepFirst

/-! ## Frames -/

/-- A cluster before it is filled. The home of a file is the file itself. -/
structure Frame where
  place : Place
  label : String
  home : String
  deriving DecidableEq, Repr

/-- The place around a frame : the home of a class, and nothing for a file. -/
def Frame.outer (f : Frame) : Option Place :=
  if f.place.isFile then none else some (.file f.home)

namespace Projection

/-- The frame of a file. -/
def fileFrame (path : String) : Frame :=
  ⟨.file path, path, path⟩

/-- The frame of a class. -/
def classFrame (p : Projection) (id : Nat) (asking : String) : Frame :=
  ⟨.classBody id, (p.homeOf id asking).2, (p.homeOf id asking).1⟩

/-- A class cluster and, before it, the file cluster around it. -/
def nested (p : Projection) (id : Nat) (asking : String) : List Frame :=
  let frame := p.classFrame id asking
  [fileFrame frame.home, frame]

/-- The clusters that an entity asks for. -/
def askedBy (p : Projection) (id : Nat) (e : Entity) : List Frame :=
  fileFrame e.file ::
    ((e.owner.map (p.nested · e.file)).getD [] ++
      if e.kind = .classType then p.nested id e.file else [])

/-- The frames that entities ask for, the first of each place. -/
def framesOf (p : Projection) (l : List (Nat × Entity)) : List Frame :=
  keepFirst (·.place) (l.flatMap fun x => p.askedBy x.1 x.2)

/-- The frames of a projection, in the order in which they are first asked for. -/
def frames (p : Projection) : List Frame :=
  p.framesOf p.toList

/-- Where the node of an entity stands. -/
def placeOf (id : Nat) (e : Entity) : Place :=
  if e.kind = .classType then .classBody id
  else
    match e.owner with
    | some c => .classBody c
    | none => .file e.file

/-- Whether an entity has a node. -/
def isDrawn (o : DrawOptions) (e : Entity) : Bool :=
  !(e.kind = .classType && o.suppressClasses)

/-- The node of an entity. -/
def nodeOf (o : DrawOptions) (id : Nat) (e : Entity) : Node where
  entity := id
  label := if e.kind = .classType then e.name ++ " (ref)" else e.name
  highlighted := id ∈ o.highlight

variable {p : Projection}

theorem frames_eq (p : Projection) :
    p.frames = keepFirst (·.place) (p.toList.flatMap fun x => p.askedBy x.1 x.2) :=
  rfl

/-- No two clusters stand for the same place. -/
theorem nodup_places (p : Projection) : (p.frames.map (·.place)).Nodup := by
  rw [frames_eq]
  exact nodup_keys_keepFirst _ _

theorem nodup_frames (p : Projection) : p.frames.Nodup :=
  .of_map _ p.nodup_places

theorem exists_asked {f : Frame} (h : f ∈ p.frames) : ∃ x ∈ p.toList, f ∈ p.askedBy x.1 x.2 := by
  rw [frames_eq] at h
  exact List.mem_flatMap.mp (mem_of_mem_keepFirst _ h)

/-- What is asked for has a cluster. -/
theorem exists_frame_of_asked {x : Nat × Entity} (hx : x ∈ p.toList) {f : Frame}
    (hf : f ∈ p.askedBy x.1 x.2) : ∃ g ∈ p.frames, g.place = f.place := by
  have hmem : f.place ∈ (p.toList.flatMap fun x => p.askedBy x.1 x.2).map (·.place) :=
    List.mem_map_of_mem (List.mem_flatMap.mpr ⟨x, hx, hf⟩)
  rw [← mem_keys_keepFirst, ← frames_eq] at hmem
  exact List.mem_map.mp hmem

@[simp]
theorem place_classFrame (p : Projection) (c : Nat) (asking : String) :
    (p.classFrame c asking).place = .classBody c :=
  rfl

/-- Whether an entity asks for a class : for its owner, and for itself if it is one. -/
def AsksFor (x : Nat × Entity) (c : Nat) : Prop :=
  x.2.owner = some c ∨ x.2.kind = .classType ∧ c = x.1

theorem mem_nested {c : Nat} {asking : String} {f : Frame} :
    f ∈ p.nested c asking ↔
      f = fileFrame (p.classFrame c asking).home ∨ f = p.classFrame c asking := by
  simp [nested]

/-- An entity asks for its file, and for classes together with their homes. -/
theorem mem_askedBy {x : Nat × Entity} {f : Frame} :
    f ∈ p.askedBy x.1 x.2 ↔
      f = fileFrame x.2.file ∨ ∃ c, AsksFor x c ∧ f ∈ p.nested c x.2.file := by
  have howner : f ∈ (x.2.owner.map (p.nested · x.2.file)).getD [] ↔
      ∃ c, x.2.owner = some c ∧ f ∈ p.nested c x.2.file := by
    cases x.2.owner <;> simp
  rw [askedBy, List.mem_cons, List.mem_append, howner, List.mem_ite_nil_right]
  simp only [AsksFor, or_and_right, exists_or, and_assoc, exists_and_left, exists_eq_left]

theorem askedBy_cases {x : Nat × Entity} {f : Frame} (h : f ∈ p.askedBy x.1 x.2) :
    f = fileFrame f.home ∨
    ∃ c, AsksFor x c ∧ f = p.classFrame c x.2.file ∧ fileFrame f.home ∈ p.askedBy x.1 x.2 := by
  rcases mem_askedBy.mp h with rfl | ⟨c, hc, hf⟩
  · exact .inl rfl
  · rcases mem_nested.mp hf with rfl | rfl
    · exact .inl rfl
    · exact .inr ⟨c, hc, rfl, mem_askedBy.mpr (.inr ⟨c, hc, mem_nested.mpr (.inl rfl)⟩)⟩

/-- A cluster that stands for a file has the frame of the file. -/
theorem eq_fileFrame_of_mem {f : Frame} (h : f ∈ p.frames) {path : String}
    (hp : f.place = .file path) :
    f = fileFrame path := by
  obtain ⟨x, -, hf⟩ := exists_asked h
  rcases askedBy_cases hf with hfile | ⟨c, -, hclass, -⟩
  · rw [hfile] at hp
    rw [hfile, Place.file.inj hp]
  · rw [hclass, place_classFrame] at hp
    cases hp

/-- A cluster that stands for a class has the frame that some entity asks for. -/
theorem eq_classFrame_of_mem {f : Frame} (h : f ∈ p.frames) {c : Nat}
    (hc : f.place = .classBody c) :
    ∃ x ∈ p.toList, AsksFor x c ∧ f = p.classFrame c x.2.file := by
  obtain ⟨x, hx, hf⟩ := exists_asked h
  rcases askedBy_cases hf with hfile | ⟨c', hwhy, hclass, -⟩
  · rw [hfile] at hc
    cases hc
  · rw [hclass, place_classFrame] at hc
    obtain rfl := Place.classBody.inj hc
    exact ⟨x, hx, hwhy, hclass⟩

/-- Every class cluster has its home among the clusters. -/
theorem home_mem_frames {f : Frame} (h : f ∈ p.frames) : fileFrame f.home ∈ p.frames := by
  obtain ⟨x, hx, hf⟩ := exists_asked h
  have hhome : fileFrame f.home ∈ p.askedBy x.1 x.2 := by
    rcases askedBy_cases hf with hfile | ⟨c, -, -, hhome⟩
    · exact hfile ▸ hf
    · exact hhome
  obtain ⟨g, hg, hplace⟩ := exists_frame_of_asked hx hhome
  rwa [← eq_fileFrame_of_mem hg hplace]

/-- What has a cluster : the file of an entity, and the classes that it asks for. -/
def Houses (p : Projection) : Place → Prop
  | .file path => ∃ x ∈ p.toList, x.2.file = path
  | .classBody c => ∃ x ∈ p.toList, AsksFor x c

/-- A class is at home in the file of an entity, be it its own or that of the entity that asks
for it. -/
theorem houses_home_classFrame {x : Nat × Entity} (hx : x ∈ p.toList) (c : Nat) :
    p.Houses (.file (p.classFrame c x.2.file).home) := by
  rw [classFrame, homeOf]
  split
  · rename_i e he
    exact ⟨(c, e), IdMap.mem_of_get? he, rfl⟩
  · exact ⟨x, hx, rfl⟩

/-- The clusters of a drawing stand for the files of its entities and the classes that they
ask for. -/
theorem mem_places {place : Place} : place ∈ p.frames.map (·.place) ↔ p.Houses place := by
  constructor
  · intro h
    obtain ⟨f, hf, rfl⟩ := List.mem_map.mp h
    obtain ⟨x, hx, hasked⟩ := exists_asked hf
    rcases mem_askedBy.mp hasked with rfl | ⟨c, hc, hnested⟩
    · exact ⟨x, hx, rfl⟩
    · rcases mem_nested.mp hnested with rfl | rfl
      · exact houses_home_classFrame hx c
      · rw [place_classFrame]
        exact ⟨x, hx, hc⟩
  · intro h
    have hasked : ∃ x ∈ p.toList, ∃ f ∈ p.askedBy x.1 x.2, f.place = place := by
      cases place with
      | file path =>
        obtain ⟨x, hx, rfl⟩ := h
        exact ⟨x, hx, fileFrame x.2.file, mem_askedBy.mpr (.inl rfl), rfl⟩
      | classBody c =>
        obtain ⟨x, hx, hc⟩ := h
        exact ⟨x, hx, p.classFrame c x.2.file,
          mem_askedBy.mpr (.inr ⟨c, hc, mem_nested.mpr (.inr rfl)⟩), place_classFrame ..⟩
    obtain ⟨x, hx, f, hf, rfl⟩ := hasked
    obtain ⟨g, hg, hplace⟩ := exists_frame_of_asked hx hf
    exact hplace ▸ List.mem_map_of_mem hg

/-- The place of a node has a cluster. -/
theorem houses_placeOf {i : Nat} {e : Entity} (hx : (i, e) ∈ p.toList) :
    p.Houses (placeOf i e) := by
  rw [placeOf]
  split
  · rename_i hkind
    exact ⟨(i, e), hx, .inr ⟨hkind, rfl⟩⟩
  · cases howner : e.owner with
    | none => exact ⟨(i, e), hx, rfl⟩
    | some c => exact ⟨(i, e), hx, .inl howner⟩

end Projection

end CallAtlas
