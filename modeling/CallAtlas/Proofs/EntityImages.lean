import CallAtlas.Proofs.ComposedSelections
import CallAtlas.Proofs.DotReading
import CallAtlas.Proofs.ImageNames
import CallAtlas.Proofs.ShownEntities

/-!
# The image of an entity

The image of an entity is the simplified drawing of what is retained for it. Where owners are
classes, the owners that come in with the retained set are classes, and a simplified drawing has no
nodes for them : what is left are the entities that the one entity reaches or is reached from
(`Projection.mem_retained_iff`). So the image shows the reach of its entity, highlighted, with one
edge for all calls from one entity to another (`Batch.ShowsReach`).

A batch asks for its directory, and then for the images in the order of the ids. Each image is asked
for with a text that reads back as its drawing, and gives one line of the report : a path or a
failure (`Batch.Accounts`).
-/

namespace CallAtlas

open Relation (TransGen)

namespace Projection

variable {p : Projection}

/-! ## Nodes and edges of a drawing -/

/-- The nodes of a drawing are those of the shown entities that are drawn. -/
theorem mem_entities_draw {o : DrawOptions} {v : Nat} :
    v ∈ (p.draw o).nodes.map (·.entity) ↔ ∃ e, p.get? v = some e ∧ isDrawn o e = true := by
  rw [((p.perm_nodes o).map _).mem_iff, List.map_map]
  constructor
  · intro hv
    obtain ⟨⟨i, e⟩, hx, rfl⟩ := List.mem_map.mp hv
    obtain ⟨hx, hdrawn⟩ := List.mem_filter.mp hx
    exact ⟨e, IdMap.get?_eq_some_iff.mpr hx, hdrawn⟩
  · rintro ⟨e, he, hdrawn⟩
    exact List.mem_map.mpr ⟨(v, e), List.mem_filter.mpr ⟨IdMap.mem_of_get? he, hdrawn⟩, rfl⟩

/-- No entity is drawn twice. -/
theorem nodup_entities_draw (p : Projection) (o : DrawOptions) :
    ((p.draw o).nodes.map (·.entity)).Nodup := by
  rw [((p.perm_nodes o).map _).nodup_iff, List.map_map]
  exact p.nodup_ids.sublist (List.filter_sublist.map _)

/-- If one entity is to be highlighted and is drawn, then its node is the one that
is highlighted. -/
theorem highlighted_draw {o : DrawOptions} {i : Nat} (ho : o.highlight = {i}) {e : Entity}
    (he : p.get? i = some e) (hdrawn : isDrawn o e = true) :
    (p.draw o).nodes.filter (·.highlighted) = [nodeOf o i e] := by
  have hids : ((p.drawn o).map (·.1)).Nodup := p.nodup_ids.sublist (List.filter_sublist.map _)
  have hmem : (i, e) ∈ p.drawn o := List.mem_filter.mpr ⟨IdMap.mem_of_get? he, hdrawn⟩
  have hone : (p.drawn o).filter (·.1 == i) = [(i, e)] := by
    rw [filter_eq_toList_find? i hids, find?_key_of_mem hids hmem, Option.toList_some]
  have hfilter : ((p.drawn o).map fun x => nodeOf o x.1 x.2).filter (·.highlighted) =
      [nodeOf o i e] := by
    rw [List.filter_map, List.filter_congr (q := (·.1 == i)), hone, List.map_singleton]
    intro x _
    simp [nodeOf, ho, Bool.beq_eq_decide_eq]
  have hperm := (p.perm_nodes o).filter (·.highlighted)
  rw [hfilter] at hperm
  exact List.perm_singleton.mp hperm

/-- An edge joins two nodes of which one calls the other. -/
theorem mem_ends_draw {o : DrawOptions} {u v : Nat} :
    (u, v) ∈ (p.draw o).edges.map Edge.ends ↔
      (u ∈ (p.draw o).nodes.map (·.entity) ∧ v ∈ (p.draw o).nodes.map (·.entity) ∧ p.Calls u v) ∧
        ¬(o.suppressRecursive = true ∧ v = u) := by
  have hshows : p.shows o u v = true ↔
      v ∈ (p.draw o).nodes.map (·.entity) ∧ ¬(o.suppressRecursive = true ∧ v = u) := by
    rw [shows, mem_entities_draw, Bool.and_eq_true, Option.any_eq_true]
    refine and_congr_right' ?_
    cases o.suppressRecursive with
    | false => simp
    | true => simp
  have hsites : (∃ g, (u, g) ∈ p.sites o ∧ v ∈ g) ↔
      u ∈ (p.draw o).nodes.map (·.entity) ∧ p.Calls u v := by
    rw [mem_entities_draw]
    simp only [mem_sites, Calls]
    constructor
    · rintro ⟨g, ⟨e, he, hdrawn, hg⟩, hv⟩
      exact ⟨⟨e, he, hdrawn⟩, e, he, g, hg, hv⟩
    · rintro ⟨⟨e, he, hdrawn⟩, e', he', g, hg, hv⟩
      obtain rfl := Option.some.inj (he.symm.trans he')
      exact ⟨g, ⟨e, he, hdrawn, hg⟩, hv⟩
  rw [mem_ends_edges, hsites, hshows]
  tauto

/-! ## Owners that are classes -/

/-- Every owner that is shown is a class. -/
def ClassesOwn (p : Projection) : Prop :=
  ∀ i e, p.get? i = some e → ∀ c, e.owner = some c → ∀ b, p.get? c = some b → b.kind = .classType

theorem classesOwn_iff : p.ClassesOwn ↔ ∀ c ∈ p.owners, ∀ b ∈ p.get? c, b.kind = .classType := by
  constructor
  · intro hp c hc b hb
    obtain ⟨⟨i, e⟩, hx, hec⟩ := List.mem_filterMap.mp hc
    exact hp i e (IdMap.get?_eq_some_iff.mpr hx) c hec b hb
  · intro hp i e he c hc b hb
    exact hp c (List.mem_filterMap.mpr ⟨(i, e), IdMap.mem_of_get? he, hc⟩) b hb

instance : Decidable p.ClassesOwn :=
  decidable_of_iff _ classesOwn_iff.symm

/-- Adding owners adds no shown entities but classes. -/
theorem mem_retained_iff (hp : p.ClassesOwn) {s : IdSet} {v : Nat} {e : Entity}
    (he : p.get? v = some e) (hkind : e.kind ≠ .classType) :
    v ∈ p.retained s ↔ v ∈ p.reached s := by
  constructor
  · intro hv
    -- with the classes and the ids that are not shown, what is reached has its owners
    have hclosed : p.Accompanies s
        {i | i ∈ p.reached s ∨ ∀ e, p.get? i = some e → e.kind = .classType} := by
      refine accompanies_iff.mpr ⟨fun i hi => .inl hi, fun i _ e he c hc => .inr fun b hb => ?_⟩
      exact hp i e he c hc b hb
    rcases hclosed.retained_subset v hv with hreached | hclass
    · exact hreached
    · exact absurd (hclass e he) hkind
  · intro hv
    exact (accompanies_iff.mp (p.accompanies_retained s)).1 v hv

end Projection

namespace Batch

open Projection (isDrawn)

variable {b : Batch} {p : Projection}

/-! ## What an image shows -/

/-- The drawing shows what `id` reaches and what reaches it, simplified and with
`id` highlighted. -/
structure ShowsReach (p : Projection) (id : Nat) (d : Drawing) : Prop where
  /-- The nodes are the shown entities within reach that are no classes. -/
  nodes : ∀ v, v ∈ d.nodes.map (·.entity) ↔
    (∃ e, p.get? v = some e ∧ e.kind ≠ .classType) ∧
      (v = id ∨ TransGen p.Calls id v ∨ TransGen p.Calls v id)
  nodup : (d.nodes.map (·.entity)).Nodup
  highlighted : (d.nodes.filter (·.highlighted)).map (·.entity) = [id]
  loopless : ∀ e ∈ d.edges, e.source ≠ e.target
  /-- No two edges have the same source and the same target. -/
  simple : (d.edges.map Edge.ends).Nodup
  /-- The edges join the nodes of which one calls another. -/
  edges : ∀ u v, (u, v) ∈ d.edges.map Edge.ends ↔
    u ≠ v ∧ u ∈ d.nodes.map (·.entity) ∧ v ∈ d.nodes.map (·.entity) ∧ p.Calls u v

/-- The options for the image of an entity. -/
def optionsFor (b : Batch) (id : Nat) : DrawOptions :=
  { b.options.simplified with highlight := {id} }

theorem drawing_eq (b : Batch) (p : Projection) (id : Nat) :
    b.drawing p id = (p.part (p.retained {id})).draw (b.optionsFor id) :=
  rfl

theorem isDrawn_optionsFor {id : Nat} {e : Entity} :
    isDrawn (b.optionsFor id) e = true ↔ e.kind ≠ .classType := by
  simp [isDrawn, optionsFor, DrawOptions.simplified]

/-- The nodes of an image are the retained entities that are no classes. -/
theorem mem_entities_drawing {id v : Nat} : v ∈ (b.drawing p id).nodes.map (·.entity) ↔
    v ∈ p.retained {id} ∧ ∃ e, p.get? v = some e ∧ e.kind ≠ .classType := by
  simp only [drawing_eq, Projection.mem_entities_draw, isDrawn_optionsFor, IdMap.get?_restrict]
  by_cases hv : v ∈ p.retained {id}
  · simp [hv]
  · simp [hv]

theorem mem_ends_drawing {id u v : Nat} : (u, v) ∈ (b.drawing p id).edges.map Edge.ends ↔
    u ≠ v ∧ u ∈ (b.drawing p id).nodes.map (·.entity) ∧ v ∈ (b.drawing p id).nodes.map (·.entity) ∧
      p.Calls u v := by
  have hrecursive : (b.optionsFor id).suppressRecursive = true := rfl
  have hkept : u ∈ (b.drawing p id).nodes.map (·.entity) → u ∈ p.retained {id} := fun hu =>
    (mem_entities_drawing.mp hu).1
  rw [drawing_eq] at hkept ⊢
  rw [Projection.mem_ends_draw, Projection.calls_part, hrecursive]
  constructor
  · rintro ⟨⟨hu, hv, -, hcall⟩, hne⟩
    exact ⟨fun h => hne ⟨rfl, h.symm⟩, hu, hv, hcall⟩
  · rintro ⟨hne, hu, hv, hcall⟩
    exact ⟨⟨hu, hv, hkept hu, hcall⟩, fun h => hne h.2.symm⟩

theorem showsReach_drawing (hp : p.ClassesOwn) {x : Nat × Entity} (hx : x ∈ b.eligible p) :
    ShowsReach p x.1 (b.drawing p x.1) := by
  obtain ⟨id, e⟩ := x
  obtain ⟨hmem, heligible⟩ := List.mem_filter.mp hx
  have he : p.get? id = some e := IdMap.get?_eq_some_iff.mpr hmem
  have hbody : e.kind.isExecutable = true := (Bool.and_eq_true_iff.mp heligible).1
  have hkind : e.kind ≠ .classType := by
    rcases Kind.isExecutable_iff.mp hbody with hfunction | hmethod
    · simp [hfunction]
    · simp [hmethod]
  have hself : id ∈ p.retained {id} :=
    (p.accompanies_retained {id}).selected id (IdSet.mem_singleton.mpr rfl)
  refine ⟨fun v => ?_, ?_, ?_, fun edge hedge heq => ?_, ?_, fun u v => mem_ends_drawing⟩
  · rw [mem_entities_drawing, and_comm]
    refine and_congr_right fun ⟨e', he', hkind'⟩ => ?_
    rw [Projection.mem_retained_iff hp he' hkind', Projection.mem_reached]
    simp [Projection.mem_forward, Projection.mem_backward]
  · exact Projection.nodup_entities_draw _ _
  · have hleft : (p.part (p.retained {id})).get? id = some e := by
      rw [Projection.get?_part_of_mem hself, he]
    rw [drawing_eq, Projection.highlighted_draw rfl hleft (isDrawn_optionsFor.mpr hkind),
      List.map_singleton]
    rfl
  · have hends : (edge.source, edge.target) ∈ (b.drawing p id).edges.map Edge.ends :=
      List.mem_map.mpr ⟨edge, hedge, rfl⟩
    exact (mem_ends_drawing.mp hends).1 heq
  · exact Projection.nodup_ends_edges _ _ rfl

/-! ## What a batch reports -/

/-- What a batch asks for : a directory, or an image with a text at a path. -/
inductive Order where
  | directory (path : String)
  | image (dot path : String)
  deriving DecidableEq, Repr

/-- A maker of directories with one answer, and a list of what was asked for. -/
def preparing (made : Except OsError Unit) : DirectoryMaker (List Order) :=
  fun orders path => made.map fun _ => orders ++ [.directory path]

/-- A maker that goes by text and path alone, with a list of what was asked for. -/
def recording (f : String → String → Except RenderError Unit) : ImageMaker (List Order) :=
  fun orders dot path => (orders ++ [.image dot path], f dot path)

/-- What is asked for the image of an entity : the text of its drawing, and a path. -/
def order (b : Batch) (p : Projection) (x : Nat × Entity) : Order :=
  .image (b.drawing p x.1).toDot (b.imagePath x.2)

/-- What one entity adds to the report. -/
def entry (b : Batch) (p : Projection) (f : String → String → Except RenderError Unit)
    (x : Nat × Entity) : BatchReport :=
  match f (b.drawing p x.1).toDot (b.imagePath x.2) with
  | .ok () => { written := [b.imagePath x.2] }
  | .error error => { failures := [⟨x.1, x.2.name, error⟩] }

/-- The orders and the report of a batch, entity by entity. -/
structure Accounts (b : Batch) (p : Projection) (f : String → String → Except RenderError Unit) :
    Prop where
  ascending : ((b.eligible p).map (·.1)).Pairwise (· < ·)
  /-- The text of an image gives back the nodes and edges of its drawing. -/
  read : ∀ x ∈ b.eligible p, ∃ g, Dot.read (b.drawing p x.1).toDot = some g ∧
    g.nodes.Perm (b.drawing p x.1).nodes ∧ g.edges = (b.drawing p x.1).edges
  /-- Without its directory, a batch asks for nothing. -/
  refused : ∀ cause, b.run p (preparing (.error cause)) (recording f) [] =
    ([], .error ⟨b.outDir, cause⟩)
  /-- The directory comes first, then every image once, and each adds to the report. -/
  made : b.run p (preparing (.ok ())) (recording f) [] =
    (.directory b.outDir :: (b.eligible p).map (b.order p),
      .ok ⟨(b.eligible p).flatMap fun x => (b.entry p f x).written,
        (b.eligible p).flatMap fun x => (b.entry p f x).failures⟩)
  /-- An entity adds one path or one failure. -/
  once : ∀ x ∈ b.eligible p,
    (b.entry p f x).written.length + (b.entry p f x).failures.length = 1
  /-- A failure names its entity. -/
  named : ∀ x ∈ b.eligible p, ∀ failure ∈ (b.entry p f x).failures,
    failure.entity = x.1 ∧ failure.name = x.2.name

section Make

variable (b : Batch) (p : Projection) (f : String → String → Except RenderError Unit)

/-- Each image of a run adds its order, and its entry to the report. -/
theorem make_recording (l : List (Nat × Entity)) (orders : List Order) :
    b.make p (recording f) orders l = (orders ++ l.map (b.order p),
      ⟨l.flatMap fun x => (b.entry p f x).written,
        l.flatMap fun x => (b.entry p f x).failures⟩) := by
  induction l generalizing orders with
  | nil => simp [make]
  | cons x l ih =>
    have hstep : recording f orders (b.drawing p x.1).toDot (b.imagePath x.2) =
        (orders ++ [b.order p x], f (b.drawing p x.1).toDot (b.imagePath x.2)) := rfl
    rw [make, hstep]
    cases hf : f (b.drawing p x.1).toDot (b.imagePath x.2) with
    | ok u => simp [ih, entry, hf]
    | error error => simp [ih, entry, hf]

theorem length_entry (x : Nat × Entity) :
    (b.entry p f x).written.length + (b.entry p f x).failures.length = 1 := by
  unfold entry
  split <;> rfl

theorem accounts : b.Accounts p f where
  ascending := by
    rw [List.pairwise_map]
    exact p.ascending.filter _
  read x _ := ⟨_, Drawing.read_toDot_eq _, (Projection.isForest_draw _ _).perm_nodes_sketch, rfl⟩
  refused cause := run_of_error rfl
  made := by
    have hmade : preparing (.ok ()) [] b.outDir = .ok [.directory b.outDir] := rfl
    rw [run_of_ok hmade, make_recording]
    rfl
  once x _ := b.length_entry p f x
  named x _ failure hfailure := by
    unfold entry at hfailure
    split at hfailure
    · cases hfailure
    · obtain rfl := List.mem_singleton.mp hfailure
      exact ⟨rfl, rfl⟩

end Make

/-- **Images show reach, and every image is accounted for.** If the owners that are shown are
classes, the image of an entity shows exactly what it reaches and what reaches it. Whatever the
owners are, and whatever the answers to other images, each image is asked for once, by ascending id
and with a text that gives back its nodes and edges, and adds one path or one failure to the
report. -/
theorem images_show_reach (b : Batch) (p : Projection) :
    (p.ClassesOwn → ∀ x ∈ b.eligible p, ShowsReach p x.1 (b.drawing p x.1)) ∧
    ∀ f, b.Accounts p f :=
  ⟨fun hp _ hx => showsReach_drawing hp hx, b.accounts p⟩

/-- The image of `go` has no node for `log`, which is called by a caller of `go`, and none for the
two classes. -/
theorem images_show_reach_knot :
    let go : Entity := ⟨"go", "go", .method, "app", "app.A", some 4, [[2], [1, 9]]⟩
    Projection.knot.ClassesOwn ∧ (1, go) ∈ pictures.eligible Projection.knot ∧
      (pictures.drawing Projection.knot 1).nodes.map (·.entity) = [3, 1, 2] ∧
      (pictures.drawing Projection.knot 1).edges.map Edge.ends = [(1, 2), (2, 1), (3, 2)] ∧
      ShowsReach Projection.knot 1 (pictures.drawing Projection.knot 1) ∧
      ∀ f, pictures.Accounts Projection.knot f := by
  intro go
  have hp : Projection.knot.ClassesOwn := by decide
  have hgo : (1, go) ∈ pictures.eligible Projection.knot := by decide
  obtain ⟨hreach, haccounts⟩ := images_show_reach pictures Projection.knot
  exact ⟨hp, hgo, by decide +kernel, by decide +kernel, hreach hp _ hgo, haccounts⟩

end Batch

end CallAtlas
