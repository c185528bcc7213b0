import Mathlib.Logic.Function.Iterate
import CallAtlas.Proofs.DrawnClusters

/-!
# The edges of a drawing

The pen draws edge after edge and looks at what it has drawn. The same edges can be listed at once
(`Projection.edges_draw`) : `Projection.callEdges` goes through the call sites of the entities with
a node and lists the callees that are shown, in the colour that the site has by its number; when
calls are combined, the first edge between two entities stays. `Projection.links_edges` is the same
for edges without their colours, and `Projection.mem_ends_edges` says which entities are joined. Of
the four reasons to leave out a call, the last one never applies
(`Projection.not_skipped_of_drawn`).
-/

namespace CallAtlas

namespace Edge

/-- The two entities that an edge joins. -/
def ends (e : Edge) : Nat × Nat :=
  (e.source, e.target)

/-- An edge without its colour. -/
def link (e : Edge) : Nat × Nat × EdgeStyle :=
  (e.source, e.target, e.style)

theorem joins_eq (e : Edge) (u v : Nat) : e.joins u v = (e.ends == (u, v)) :=
  rfl

end Edge

namespace Projection

/-- The two entities that a link joins. -/
def linkEnds (x : Nat × Nat × EdgeStyle) : Nat × Nat :=
  (x.1, x.2.1)

/-- Keep the first of what has the same ends, if calls are combined. -/
def combine {α : Type} (o : DrawOptions) (ends : α → Nat × Nat) (l : List α) : List α :=
  if o.combineCalls then keepFirst ends l else l

/-! ## Sites -/

/-- The call sites of the entities with a node, each with its caller. -/
def sites (p : Projection) (o : DrawOptions) : List (Nat × CallGroup) :=
  p.toList.flatMap fun x => if isDrawn o x.2 then x.2.calls.map (x.1, ·) else []

/-- The wheel after a number of sites. -/
def wheelAt (o : DrawOptions) (k : Nat) : ColorWheel :=
  (fun w => (siteColor w o.edgeColor).2)^[k] .new

/-- The colour of the site with a number. -/
def colorAt (o : DrawOptions) (k : Nat) : String :=
  (siteColor (wheelAt o k) o.edgeColor).1

/-- Whether a call from `u` to `v` is shown, be it by an earlier edge. -/
def shows (p : Projection) (o : DrawOptions) (u v : Nat) : Bool :=
  (p.get? v).any (isDrawn o) && !(o.suppressRecursive && v == u)

/-- The edges of a site in a colour. -/
def siteEdges (p : Projection) (o : DrawOptions) (site : Nat × CallGroup) (color : String) :
    List Edge :=
  (site.2.filter (p.shows o site.1)).map fun v => ⟨site.1, v, siteStyle site.2, color⟩

/-- An edge for every call that is shown. -/
def callEdges (p : Projection) (o : DrawOptions) : List Edge :=
  (p.sites o).zipIdx.flatMap fun x => p.siteEdges o x.1 (colorAt o x.2)

/-- The links of a site. -/
def siteLinks (p : Projection) (o : DrawOptions) (site : Nat × CallGroup) :
    List (Nat × Nat × EdgeStyle) :=
  (site.2.filter (p.shows o site.1)).map fun v => (site.1, v, siteStyle site.2)

/-- A link for every call that is shown. -/
def callLinks (p : Projection) (o : DrawOptions) : List (Nat × Nat × EdgeStyle) :=
  (p.sites o).flatMap (p.siteLinks o)

variable (p : Projection) (o : DrawOptions)

/-! ## The pen -/

theorem combine_concat (es : List Edge) (e : Edge) : combine o Edge.ends (es ++ [e]) =
    if o.combineCalls && (combine o Edge.ends es).any (·.joins e.source e.target) then
      combine o Edge.ends es else combine o Edge.ends es ++ [e] := by
  cases ho : o.combineCalls
  · simp [combine, ho]
  · simp only [combine, ho, if_true, Bool.true_and, keepFirst_concat]
    refine if_congr ?_ rfl rfl
    simp only [List.mem_map, List.any_eq_true, Edge.joins_eq, beq_iff_eq]
    rfl

/-- The callee of a call is no class that is left out : such a class has no node. -/
theorem not_skipped_of_drawn {v : Nat} (h : v ∈ (p.canvas o).drawn) :
    (o.suppressClasses && (p.get? v).map (·.kind) == some .classType) = false := by
  obtain ⟨e, he, hdrawn⟩ := mem_drawn_canvas.mp h
  rw [he, Option.map_some, Bool.and_comm]
  simpa [isDrawn, imp_iff_not_or] using hdrawn

/-- A call gets an edge if it is shown and has none already. -/
theorem admits_eq (es : List Edge) (u v : Nat) : p.admits o (p.canvas o).drawn es u v =
    (p.shows o u v && !(o.combineCalls && es.any (·.joins u v))) := by
  have hnode : decide (v ∈ (p.canvas o).drawn) = (p.get? v).any (isDrawn o) := by
    rw [Bool.eq_iff_iff, decide_eq_true_iff, mem_drawn_canvas, Option.any_eq_true]
  rw [admits, shows, ← hnode]
  by_cases hdrawn : v ∈ (p.canvas o).drawn
  · rw [p.not_skipped_of_drawn o hdrawn, Bool.not_false, Bool.and_true]
  · simp [hdrawn]

/-- The pen draws the shown calls of a site, and leaves out those that have an edge if calls are
combined. -/
theorem foldl_admits (u : Nat) (style : EdgeStyle) (color : String) (g : CallGroup)
    (es : List Edge) :
    g.foldl (fun edges v => if p.admits o (p.canvas o).drawn edges u v then
          edges ++ [⟨u, v, style, color⟩] else edges) (combine o Edge.ends es) =
      combine o Edge.ends (es ++ (g.filter (p.shows o u)).map fun v => ⟨u, v, style, color⟩) := by
  induction g generalizing es with
  | nil => simp
  | cons v g ih =>
    rw [List.foldl_cons, admits_eq, List.filter_cons]
    cases hshows : p.shows o u v
    · simpa using ih es
    · rw [if_pos rfl, List.map_cons, List.append_cons es, ← ih, combine_concat]
      cases o.combineCalls && (combine o Edge.ends es).any (·.joins u v) <;> rfl

theorem drawSite_eq (w : ColorWheel) (es : List Edge) (site : Nat × CallGroup) :
    p.drawSite o (p.canvas o).drawn site.1 ⟨w, combine o Edge.ends es⟩ site.2 =
      ⟨(siteColor w o.edgeColor).2,
        combine o Edge.ends (es ++ p.siteEdges o site (siteColor w o.edgeColor).1)⟩ := by
  rw [drawSite, siteEdges]
  exact congrArg (Pen.mk _) (p.foldl_admits o site.1 _ _ site.2 es)

/-- The pen after some sites has turned the wheel once for each, and drawn their edges. -/
theorem foldl_drawSite (sites : List (Nat × CallGroup)) :
    sites.foldl (fun pen site => p.drawSite o (p.canvas o).drawn site.1 pen site.2) {} =
      ⟨wheelAt o sites.length,
        combine o Edge.ends (sites.zipIdx.flatMap fun x => p.siteEdges o x.1 (colorAt o x.2))⟩ := by
  induction sites using List.reverseRecOn with
  | nil => cases ho : o.combineCalls <;> simp [combine, ho, keepFirst, wheelAt]
  | append_singleton sites site ih =>
    rw [List.foldl_append, ih, List.foldl_cons, List.foldl_nil, drawSite_eq, List.zipIdx_append,
      List.flatMap_append, List.length_append, List.length_singleton, wheelAt, wheelAt,
      Function.iterate_succ_apply']
    simp [colorAt, wheelAt]

/-- The edges of a drawing, listed at once. -/
theorem edges_draw : (p.draw o).edges = combine o Edge.ends (p.callEdges o) := by
  have hsites : p.toList.foldl (fun pen x => p.drawCalls o (p.canvas o).drawn pen x.1 x.2) {} =
      (p.sites o).foldl (fun pen site => p.drawSite o (p.canvas o).drawn site.1 pen site.2) {} := by
    rw [sites, List.foldl_flatMap]
    refine List.foldl_ext _ _ _ fun pen x hx => ?_
    simp only [drawCalls, mem_drawn_of_mem hx]
    split
    · rw [List.foldl_map]
    · rfl
  rw [draw, edges, hsites, foldl_drawSite, callEdges]

/-! ## Links -/

theorem map_link_siteEdges (site : Nat × CallGroup) (color : String) :
    (p.siteEdges o site color).map Edge.link = p.siteLinks o site := by
  rw [siteEdges, List.map_map]
  rfl

theorem map_link_callEdges : (p.callEdges o).map Edge.link = p.callLinks o := by
  have hlinks : p.callLinks o = ((p.sites o).zipIdx.map Prod.fst).flatMap (p.siteLinks o) := by
    rw [List.zipIdx_map_fst, callLinks]
  rw [hlinks, List.flatMap_map, callEdges, List.map_flatMap]
  exact List.flatMap_congr fun x _ => p.map_link_siteEdges o x.1 _

/-- The links of the edges that are drawn. -/
theorem links_edges : (p.draw o).edges.map Edge.link = combine o linkEnds (p.callLinks o) := by
  rw [edges_draw, ← map_link_callEdges, combine, combine]
  split
  · exact map_keepFirst Edge.ends linkEnds (fun _ => rfl) _
  · rfl

/-! ## Ends -/

theorem mem_sites {u : Nat} {g : CallGroup} :
    (u, g) ∈ p.sites o ↔ ∃ e, p.get? u = some e ∧ isDrawn o e = true ∧ g ∈ e.calls := by
  simp only [sites, List.mem_flatMap, List.mem_ite_nil_right, List.mem_map, Prod.mk.injEq,
    IdMap.get?_eq_some_iff]
  constructor
  · rintro ⟨⟨i, e⟩, hmem, hdrawn, g', hg, rfl, rfl⟩
    exact ⟨e, hmem, hdrawn, hg⟩
  · rintro ⟨e, hmem, hdrawn, hg⟩
    exact ⟨(u, e), hmem, hdrawn, g, hg, rfl, rfl⟩

/-- Combining calls loses no ends. -/
theorem mem_ends_combine {α : Type} {ends : α → Nat × Nat} {l : List α} {x : Nat × Nat} :
    x ∈ (combine o ends l).map ends ↔ x ∈ l.map ends := by
  unfold combine
  split
  · exact mem_keys_keepFirst ends
  · exact Iff.rfl

/-- An edge goes from `u` to `v` if some site of `u` lists `v` and the call is shown. -/
theorem mem_ends_edges {u v : Nat} :
    (u, v) ∈ (p.draw o).edges.map Edge.ends ↔
      (∃ g, (u, g) ∈ p.sites o ∧ v ∈ g) ∧ p.shows o u v = true := by
  have hends : (p.draw o).edges.map Edge.ends = ((p.draw o).edges.map Edge.link).map linkEnds := by
    rw [List.map_map]
    rfl
  rw [hends, links_edges, mem_ends_combine]
  simp only [callLinks, siteLinks, List.map_flatMap, List.mem_flatMap, List.map_map, List.mem_map,
    List.mem_filter, Function.comp_apply, linkEnds, Prod.mk.injEq]
  constructor
  · rintro ⟨⟨i, g⟩, hsite, w, ⟨hw, hshown⟩, rfl, rfl⟩
    exact ⟨⟨g, hsite, hw⟩, hshown⟩
  · rintro ⟨⟨g, hsite, hv⟩, hshown⟩
    exact ⟨(u, g), hsite, v, ⟨hv, hshown⟩, rfl, rfl⟩

/-- Combined calls have one edge from one entity to another. -/
theorem nodup_ends_edges (h : o.combineCalls = true) : ((p.draw o).edges.map Edge.ends).Nodup := by
  rw [edges_draw, combine, if_pos h]
  exact nodup_keys_keepFirst _ _

/-- With a fixed colour, all edges have it. -/
theorem color_of_fixed {color : String} (h : o.edgeColor = .fixed color) {e : Edge}
    (he : e ∈ (p.draw o).edges) :
    e.color = color := by
  have hmem : e ∈ p.callEdges o := by
    rw [edges_draw, combine] at he
    split at he
    · exact mem_of_mem_keepFirst _ he
    · exact he
  obtain ⟨x, -, he⟩ := List.mem_flatMap.mp hmem
  obtain ⟨v, -, rfl⟩ := List.mem_map.mp he
  simp [colorAt, siteColor, h]

end Projection

end CallAtlas
