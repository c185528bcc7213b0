import CallAtlas.Proofs.PrunedDrawings

/-!
# Edges by policy

Three switches thin out the edges of a drawing : no calls of an entity by itself, one edge from one
entity to another, and no nodes for classes. `Projection.fullEdges` lists the edges without any of
them, and says their styles and colours by the numbers of their call sites. Each switch is a filter
on the list that is drawn with the other two as they are (`Projection.PoliciesCompose`), so their
order does not matter, and an edge that stays has the style and the colour that it had.
-/

namespace CallAtlas

theorem IdMap.contains_eq_true_iff {α : Type} {m : IdMap α} {i : Nat} :
    m.contains i = true ↔ ∃ a, (i, a) ∈ m.toList := by
  simp [contains]

/-- Options with the switches set : no calls of an entity by itself, combined calls, and no nodes
for classes. -/
def DrawOptions.switched (o : DrawOptions) (noLoops combine noClasses : Bool) : DrawOptions :=
  { o with suppressRecursive := noLoops, combineCalls := combine, suppressClasses := noClasses }

/-! ## The colours of sites -/

namespace ColorWheel

/-- A wheel that was turned a number of times stands as many places before the first colour. -/
theorem cursor_iterate_turn (n : Nat) : (turn^[n] new).cursor.val = (30 - n % 30) % 30 := by
  induction n with
  | zero => rfl
  | succ n ih =>
    have hlength : palette.length = 30 := by decide
    rw [Function.iterate_succ_apply', turn]
    simp only [ih, hlength]
    omega

end ColorWheel

/-- The colour of the call site with a number, counted from zero. -/
def EdgeColor.ofSite (n : Nat) : EdgeColor → String
  | .fixed color => color
  | .rotate => palette.get ⟨(30 - n % 30) % 30, Nat.mod_lt _ (by decide)⟩

namespace Projection

theorem colorAt_eq (o : DrawOptions) (n : Nat) : colorAt o n = o.edgeColor.ofSite n := by
  cases ho : o.edgeColor with
  | fixed color => simp [colorAt, siteColor, ho, EdgeColor.ofSite]
  | rotate =>
    have hwheel : wheelAt o n = ColorWheel.turn^[n] .new := by simp [wheelAt, siteColor, ho]
    have hcursor : (wheelAt o n).cursor = ⟨(30 - n % 30) % 30, Nat.mod_lt _ (by decide)⟩ :=
      Fin.ext (hwheel ▸ ColorWheel.cursor_iterate_turn n)
    rw [colorAt, ho, siteColor, ColorWheel.color, hcursor, EdgeColor.ofSite]

/-! ## The full list -/

/-- One edge for each shown callee of each call site, by ascending callers and in the order of sites
and callees. It is dashed if the site has more than one callee, shown or not, and has the colour of
the number of its site. -/
def fullEdges (p : Projection) (color : EdgeColor) : List Edge :=
  (p.toList.flatMap fun x => x.2.calls.map (x.1, ·)).zipIdx.flatMap fun x =>
    (x.1.2.filter p.contains).map fun v =>
      { source := x.1.1
        target := v
        style := if 1 < x.1.2.length then .dashed else .solid
        color := color.ofSite x.2 }

/-- Whether an id is that of a shown class. -/
def isClass (p : Projection) (i : Nat) : Bool :=
  (p.get? i).any (·.kind = .classType)

/-- A projection without its classes. -/
def withoutClasses (p : Projection) : Projection :=
  ⟨p.toList.filter (·.2.kind ≠ .classType), p.ascending.filter _⟩

/-- The entities with a node. -/
def withNodes (p : Projection) (o : DrawOptions) : Projection :=
  if o.suppressClasses then p.withoutClasses else p

variable (p : Projection) (o : DrawOptions)

theorem sites_eq : p.sites o = (p.withNodes o).toList.flatMap fun x => x.2.calls.map (x.1, ·) := by
  unfold withNodes
  split
  · rename_i ho
    rw [withoutClasses, flatMap_filter_eq, sites]
    refine List.flatMap_congr fun x _ => ?_
    simp [isDrawn, ho]
  · rename_i ho
    rw [sites]
    refine List.flatMap_congr fun x _ => ?_
    simp [isDrawn, ho]

theorem contains_withNodes (v : Nat) : (p.withNodes o).contains v = (p.get? v).any (isDrawn o) := by
  rw [Bool.eq_iff_iff, IdMap.contains_eq_true_iff, Option.any_eq_true]
  refine exists_congr fun e => ?_
  rw [IdMap.get?_eq_some_iff, withNodes]
  split
  · rename_i ho
    simp [withoutClasses, isDrawn, ho]
  · rename_i ho
    simp [isDrawn, ho]

/-- If calls of an entity by itself are drawn, there is an edge for every call between entities with
a node. -/
theorem callEdges_eq_fullEdges (h : o.suppressRecursive = false) :
    p.callEdges o = (p.withNodes o).fullEdges o.edgeColor := by
  rw [callEdges, sites_eq, fullEdges]
  refine List.flatMap_congr fun x _ => ?_
  have hshows : p.shows o x.1.1 = (p.withNodes o).contains := by
    funext v
    rw [shows, h, contains_withNodes, Bool.false_and, Bool.not_false, Bool.and_true]
  rw [siteEdges, hshows, colorAt_eq]
  refine List.map_congr_left fun v _ => ?_
  simp [siteStyle, CallGroup.isAmbiguous]

/-! ## Fewer edges -/

variable {p o}

/-- Options that show fewer calls of the same sites, by a test of their ends, draw the edges that
pass the test. -/
theorem edges_filter {o' : DrawOptions} (q : Nat × Nat → Bool) (hsites : p.sites o' = p.sites o)
    (hcolor : o'.edgeColor = o.edgeColor) (hcombine : o'.combineCalls = o.combineCalls)
    (hshows : ∀ site ∈ p.sites o, ∀ v, p.shows o' site.1 v =
      (p.shows o site.1 v && q (site.1, v))) :
    (p.draw o').edges = (p.draw o).edges.filter (q ∘ Edge.ends) := by
  have hcalls : p.callEdges o' = (p.callEdges o).filter (q ∘ Edge.ends) := by
    rw [callEdges, callEdges, hsites, List.filter_flatMap]
    refine List.flatMap_congr fun x hx => ?_
    have hfilter : x.1.2.filter (p.shows o' x.1.1) =
        (x.1.2.filter (p.shows o x.1.1)).filter fun v => q (x.1.1, v) := by
      rw [List.filter_filter]
      refine List.filter_congr fun v _ => ?_
      rw [hshows x.1 (List.fst_mem_of_mem_zipIdx hx), Bool.and_comm]
    rw [siteEdges, siteEdges, hfilter, List.filter_map, colorAt_eq, colorAt_eq, hcolor]
    rfl
  rw [edges_draw, edges_draw, hcalls, combine, hcombine]
  exact combine_filter o Edge.ends q _

/-- If no class has call sites, none is lost with the nodes of classes. -/
theorem toList_flatMap_withoutClasses (h : ∀ x ∈ p.toList, x.2.kind = .classType → x.2.calls = []) :
    (p.withoutClasses.toList.flatMap fun x => x.2.calls.map (x.1, ·)) =
      p.toList.flatMap fun x => x.2.calls.map (x.1, ·) := by
  rw [withoutClasses, flatMap_filter_eq]
  refine List.flatMap_congr fun x hx => ?_
  by_cases hkind : x.2.kind = .classType
  · simp [h x hx hkind]
  · simp [hkind]

/-! ## The switches -/

/-- The edges that are drawn with the switches set. -/
def edgesWith (p : Projection) (o : DrawOptions) (noLoops combine noClasses : Bool) : List Edge :=
  (p.draw (o.switched noLoops combine noClasses)).edges

/-- Each switch is a filter on the edges that are drawn with the other two as they are. -/
structure PoliciesCompose (p : Projection) (color : EdgeColor)
    (drawn : Bool → Bool → Bool → List Edge) : Prop where
  /-- Without a switch every call between shown entities has its edge. -/
  full : drawn false false false = p.fullEdges color
  /-- Without nodes for classes, only the sites of the other entities count. -/
  nodes : drawn false false true = p.withoutClasses.fullEdges color
  /-- Edges from an entity to itself are left out. -/
  loops : ∀ combine noClasses,
    drawn true combine noClasses = (drawn false combine noClasses).filter fun e =>
      e.source ≠ e.target
  /-- The first edge from one entity to another stays, as it is. -/
  combined : ∀ noLoops noClasses,
    drawn noLoops true noClasses = keepFirst Edge.ends (drawn noLoops false noClasses)
  /-- If classes make no calls, the edges with a class at an end are left out. -/
  classes : (∀ x ∈ p.toList, x.2.kind = .classType → x.2.calls = []) → ∀ noLoops combine,
    drawn noLoops combine true =
      (drawn noLoops combine false).filter fun e => !p.isClass e.source && !p.isClass e.target

variable (p o)

theorem edgesWith_of_full (noClasses : Bool) :
    p.edgesWith o false false noClasses =
      (p.withNodes (o.switched false false noClasses)).fullEdges o.edgeColor := by
  rw [edgesWith, edges_draw, callEdges_eq_fullEdges p (o.switched false false noClasses) rfl]
  rfl

theorem edgesWith_noLoops (combine noClasses : Bool) :
    p.edgesWith o true combine noClasses =
      (p.edgesWith o false combine noClasses).filter fun e => e.source ≠ e.target := by
  refine edges_filter (fun x => x.1 ≠ x.2) rfl rfl rfl fun site _ v => ?_
  have hdrawn : isDrawn (o.switched true combine noClasses) =
      isDrawn (o.switched false combine noClasses) := rfl
  rw [shows, shows, hdrawn]
  by_cases hv : v = site.1
  · simp [DrawOptions.switched, hv]
  · simp [DrawOptions.switched, hv, Ne.symm hv]

theorem edgesWith_combine (noLoops noClasses : Bool) :
    p.edgesWith o noLoops true noClasses =
      keepFirst Edge.ends (p.edgesWith o noLoops false noClasses) := by
  rw [edgesWith, edgesWith, edges_draw, edges_draw]
  rfl

theorem edgesWith_noClasses (h : ∀ x ∈ p.toList, x.2.kind = .classType → x.2.calls = [])
    (noLoops combine : Bool) : p.edgesWith o noLoops combine true =
      (p.edgesWith o noLoops combine false).filter fun e =>
        !p.isClass e.source && !p.isClass e.target := by
  have hsites : p.sites (o.switched noLoops combine true) =
      p.sites (o.switched noLoops combine false) := by
    rw [sites_eq, sites_eq]
    exact toList_flatMap_withoutClasses h
  refine edges_filter (fun x => !p.isClass x.1 && !p.isClass x.2) hsites rfl rfl
    fun site hsite v => ?_
  have hsource : p.isClass site.1 = false := by
    rw [← hsites] at hsite
    obtain ⟨e, he, hdrawn, -⟩ := (p.mem_sites _).mp hsite
    simpa [isClass, he, isDrawn, DrawOptions.switched] using hdrawn
  rw [hsource, shows, shows, isClass]
  cases p.get? v with
  | none => rfl
  | some e => simp [isDrawn, DrawOptions.switched, Bool.and_comm]

/-- **Edge policies compose.** Whatever is shown and however it is drawn, each of the three switches
is a filter of its own on the edges, down from the full list. -/
theorem edge_policies_compose : p.PoliciesCompose o.edgeColor (p.edgesWith o) where
  full := p.edgesWith_of_full o false
  nodes := p.edgesWith_of_full o true
  loops := p.edgesWith_noLoops o
  combined := p.edgesWith_combine o
  classes := p.edgesWith_noClasses o

/-- A class with a method that calls itself, its class and a function, and what is not shown. -/
def tally : Projection :=
  .ofList [
    (1, ⟨"Tally:", "Tally", .classType, "app", "app", none, []⟩),
    (2, ⟨"add", "add", .method, "app", "app.Tally", some 1, [[3, 2], [9], [1], [3]]⟩),
    (3, ⟨"log()", "log", .function, "app", "app", none, [[2, 9]]⟩)]

theorem edge_policies_compose_tally :
    (∀ x ∈ tally.toList, x.2.kind = .classType → x.2.calls = []) ∧
    tally.edgesWith {} false false false = [
      ⟨2, 3, .dashed, "aquamarine"⟩, ⟨2, 2, .dashed, "aquamarine"⟩, ⟨2, 1, .solid, "gold2"⟩,
      ⟨2, 3, .solid, "firebrick2"⟩, ⟨3, 2, .dashed, "dodgerblue2"⟩] ∧
    tally.edgesWith {} true true true =
      (tally.edgesWith {} true true false).filter
        (fun e => !tally.isClass e.source && !tally.isClass e.target) ∧
    tally.edgesWith {} true true true =
      [⟨2, 3, .dashed, "aquamarine"⟩, ⟨3, 2, .dashed, "dodgerblue2"⟩] := by
  have hclasses : ∀ x ∈ tally.toList, x.2.kind = .classType → x.2.calls = [] := by decide
  refine ⟨hclasses, by decide +kernel, ?_, by decide +kernel⟩
  exact (tally.edge_policies_compose {}).classes hclasses true true

end Projection

end CallAtlas
