import CallAtlas.Proofs.DocumentReading
import CallAtlas.Proofs.DrawnEdges
import CallAtlas.Proofs.ReconciledReports
import CallAtlas.Proofs.RegroupedCalls
import CallAtlas.Report.Summary

/-!
# What a summary says

A summary is a text made of notes : one for each file, with a note for each of its entities and in
it one for each call site (`Report.Summarizes`). It finds the file of an entity in the catalog, and
tells a call as ambiguous unless it has exactly one candidate. Documents and drawings go by the
projection alone, and call a site ambiguous if it has more than one candidate. After an analysis all
agree : files of entities have rows, ids have one row, and no call site is without candidates. The
edges of a drawing come in blocks, one for each call site of the document
(`Projection.exists_blocks`), so that it can be said which edges are those of a site, also when
calls are combined.
-/

namespace CallAtlas

/-! ## Edges of call sites -/

namespace Projection

open Report (CallSite GraphDocument)

variable (p : Projection) (o : DrawOptions)

/-- The edges that are drawn for a call site. -/
structure DrawnFor (s : CallSite) (block : List Edge) : Prop where
  source : ∀ x ∈ block, x.source = s.caller
  /-- The edges of ambiguous sites are dashed, and no others. -/
  dashed : ∀ x ∈ block, x.style = .dashed ↔ s.ambiguous = true
  targets : (block.map (·.target)).Sublist s.candidates
  /-- Unless calls are combined, all candidates that are shown have an edge. -/
  every : o.combineCalls = false → block.map (·.target) =
    s.candidates.filter fun v => (p.get? s.caller).any (isDrawn o) && p.shows o s.caller v

/-- What the pen draws for the candidates of a site. -/
theorem exists_block (u : Nat) (style : EdgeStyle) (color : String) (g : CallGroup)
    (edges : List Edge) :
    ∃ block, g.foldl (fun edges v => if p.admits o (p.canvas o).drawn edges u v then
        edges ++ [⟨u, v, style, color⟩] else edges) edges = edges ++ block ∧
      (∀ x ∈ block, x.source = u ∧ x.style = style) ∧ (block.map (·.target)).Sublist g ∧
      (o.combineCalls = false → block.map (·.target) = g.filter (p.shows o u)) := by
  induction g generalizing edges with
  | nil => exact ⟨[], by simp⟩
  | cons v g ih =>
    have hadmits : o.combineCalls = false →
        p.admits o (p.canvas o).drawn edges u v = p.shows o u v := by
      intro ho
      simp [admits_eq, ho]
    rw [List.foldl_cons]
    by_cases hv : p.admits o (p.canvas o).drawn edges u v = true
    · obtain ⟨block, hblock, hsource, htargets, hevery⟩ := ih (edges ++ [⟨u, v, style, color⟩])
      refine ⟨⟨u, v, style, color⟩ :: block, ?_, ?_, htargets.cons_cons v, fun ho => ?_⟩
      · rw [if_pos hv, hblock, List.append_assoc, List.singleton_append]
      · exact List.forall_mem_cons.mpr ⟨⟨rfl, rfl⟩, hsource⟩
      · rw [List.map_cons, hevery ho, List.filter_cons_of_pos (by rw [← hadmits ho, hv])]
    · obtain ⟨block, hblock, hsource, htargets, hevery⟩ := ih edges
      refine ⟨block, by rw [if_neg hv, hblock], hsource, htargets.cons v, fun ho => ?_⟩
      rw [hevery ho, List.filter_cons_of_neg (by rwa [← hadmits ho])]

variable {p}

/-- The pen draws a block for a site of an entity with a node. -/
theorem exists_block_drawSite {u : Nat} (hu : (p.get? u).any (isDrawn o) = true) (k : Nat)
    (g : CallGroup) (pen : Pen) :
    ∃ block, (p.drawSite o (p.canvas o).drawn u pen g).edges = pen.edges ++ block ∧
      p.DrawnFor o ⟨u, k, g, g.isAmbiguous⟩ block := by
  obtain ⟨block, hblock, hedges, htargets, hevery⟩ :=
    p.exists_block o u (siteStyle g) (siteColor pen.wheel o.edgeColor).1 g pen.edges
  refine ⟨block, hblock, fun x hx => (hedges x hx).1, fun x hx => ?_, htargets, fun ho => ?_⟩
  · rw [(hedges x hx).2, siteStyle]
    cases g.isAmbiguous <;> simp
  · rw [hevery ho]
    simp only [hu, Bool.true_and]

theorem exists_blocks_foldl {u : Nat} (hu : (p.get? u).any (isDrawn o) = true)
    (calls : List CallGroup) (k : Nat) (pen : Pen) :
    ∃ blocks, (calls.foldl (p.drawSite o (p.canvas o).drawn u) pen).edges =
        pen.edges ++ blocks.flatten ∧
      List.Forall₂ (p.DrawnFor o) ((calls.zipIdx k).map fun x => ⟨u, x.2, x.1, x.1.isAmbiguous⟩)
        blocks := by
  induction calls generalizing k pen with
  | nil => exact ⟨[], by simp⟩
  | cons g calls ih =>
    obtain ⟨block, hblock, hdrawn⟩ := exists_block_drawSite o hu k g pen
    obtain ⟨blocks, hblocks, hall⟩ := ih (k + 1) (p.drawSite o (p.canvas o).drawn u pen g)
    refine ⟨block :: blocks, ?_, ?_⟩
    · rw [List.foldl_cons, hblocks, hblock, List.flatten_cons, List.append_assoc]
    · rw [List.zipIdx_cons, List.map_cons]
      exact .cons hdrawn hall

/-- The blocks of one entity. They are empty if it has no node. -/
theorem exists_blocks_drawCalls {x : Nat × Entity} (hx : x ∈ p.toList) (pen : Pen) :
    ∃ blocks, (p.drawCalls o (p.canvas o).drawn pen x.1 x.2).edges = pen.edges ++ blocks.flatten ∧
      List.Forall₂ (p.DrawnFor o) (GraphDocument.sites x.1 x.2) blocks := by
  have hget : (p.get? x.1).any (isDrawn o) = isDrawn o x.2 := by
    rw [IdMap.get?_eq_some_iff.mpr hx, Option.any_some]
  rw [drawCalls]
  split
  · rename_i hdrawn
    exact exists_blocks_foldl o (hget.trans ((mem_drawn_of_mem hx).mp hdrawn)) x.2.calls 0 pen
  · rename_i hdrawn
    rw [mem_drawn_of_mem hx] at hdrawn
    refine ⟨(GraphDocument.sites x.1 x.2).map fun _ => [], by simp, ?_⟩
    rw [List.forall₂_map_right_iff, List.forall₂_same]
    intro s hs
    obtain ⟨y, -, rfl⟩ := List.mem_map.mp hs
    exact ⟨by simp, by simp, by simp, by simp [hget, hdrawn]⟩

theorem exists_blocks_entries {l : List (Nat × Entity)} (hl : ∀ x ∈ l, x ∈ p.toList) (pen : Pen) :
    ∃ blocks, (l.foldl (fun pen x => p.drawCalls o (p.canvas o).drawn pen x.1 x.2) pen).edges =
        pen.edges ++ blocks.flatten ∧
      List.Forall₂ (p.DrawnFor o) (l.flatMap fun x => GraphDocument.sites x.1 x.2) blocks := by
  induction l generalizing pen with
  | nil => exact ⟨[], by simp⟩
  | cons x l ih =>
    obtain ⟨hx, hl⟩ := List.forall_mem_cons.mp hl
    obtain ⟨first, hfirst, hdrawn⟩ := exists_blocks_drawCalls o hx pen
    obtain ⟨blocks, hblocks, hall⟩ := ih hl (p.drawCalls o (p.canvas o).drawn pen x.1 x.2)
    refine ⟨first ++ blocks, ?_, List.rel_append hdrawn hall⟩
    rw [List.foldl_cons, hblocks, hfirst, List.flatten_append, List.append_assoc]

/-- The edges of a drawing are blocks, one for each call site of the document. -/
theorem exists_blocks (p : Projection) (o : DrawOptions) :
    ∃ blocks, (p.draw o).edges = blocks.flatten ∧
    List.Forall₂ (p.DrawnFor o) (GraphDocument.ofProjection p).callSites blocks :=
  exists_blocks_entries o (fun _ hx => hx) {}

end Projection

/-! ## Notes -/

namespace Report

/-- What a summary says about a callee : name and container of one that is shown, or the id. -/
inductive CalleeNote where
  | shown (name container : String)
  | hidden (id : Nat)
  deriving DecidableEq, Repr

/-- What a summary says about a call site. -/
inductive SiteNote where
  | single (callee : CalleeNote)
  | ambiguous (callees : List CalleeNote)
  deriving DecidableEq, Repr

/-- What a summary says about an entity. -/
structure EntityNote where
  id : Nat
  name : String
  sites : List SiteNote
  deriving DecidableEq, Repr

/-- What a summary says about a file. -/
structure FileNote where
  file : FileRow
  entities : List EntityNote
  deriving DecidableEq, Repr

/-- The wording for a callee. -/
def CalleeNote.text : CalleeNote → String
  | .shown name container => name ++ " from " ++ container
  | .hidden id => "entity " ++ toString id

/-- The lines of a call site. -/
def SiteNote.lines : SiteNote → List String
  | .single n => ["\t\t-- Calls " ++ n.text]
  | .ambiguous ns =>
    "\t\t-- Ambiguous call, may call any of these:" :: ns.map fun n => "\t\t\t-- Calls " ++ n.text

/-- The lines of an entity. -/
def EntityNote.lines (n : EntityNote) : List String :=
  ("\t- " ++ n.name) ::
    if n.sites.isEmpty then ["\t\t-- No external calls"] else n.sites.flatMap (·.lines)

/-- The section of a file. -/
def FileNote.text (n : FileNote) : String :=
  String.join <| (["Module: " ++ n.file.importPath, "(" ++ n.file.fullPath ++ ")", "Defines:"] ++
    n.entities.flatMap (·.lines) ++ [""]).map (· ++ "\n")

/-- The note on a callee, which is shown by a projection or not. -/
def CalleeNote.Tells (p : Projection) (v : Nat) : CalleeNote → Prop
  | .shown name container => ∃ e, p.get? v = some e ∧ e.name = name ∧ e.importPath = container
  | .hidden id => p.get? v = none ∧ v = id

/-- The note on a call site of a document : an ambiguous site with all its candidates, any other
with the only one. -/
def SiteNote.Tells (p : Projection) (s : CallSite) : SiteNote → Prop
  | .single n => s.ambiguous = false ∧ ∃ v, s.candidates = [v] ∧ n.Tells p v
  | .ambiguous ns => s.ambiguous = true ∧ List.Forall₂ (CalleeNote.Tells p) s.candidates ns

/-- The notes that a summary of a projection is made of. -/
structure Summarizes (c : Catalog) (p : Projection) (notes : List FileNote) : Prop where
  text : summary c p = String.join (notes.map (·.text))
  /-- There is a section for each file, in order. -/
  files : notes.map (·.file) = c.files
  /-- Every entity is in one section, once. -/
  once : (notes.flatMap fun f => f.entities.map (·.id)).Perm p.ids
  ascending : ∀ f ∈ notes, (f.entities.map (·.id)).Pairwise (· < ·)
  /-- An entity is in the section of the file of its row. -/
  home : ∀ f ∈ notes, ∀ n ∈ f.entities, ∃ r ∈ c.entities, r.id = n.id ∧ r.fileId = f.file.id
  /-- It has the name that is shown, and its file is shown too. -/
  shown : ∀ f ∈ notes, ∀ n ∈ f.entities, ∃ e, p.get? n.id = some e ∧ n.name = e.name ∧
    e.file = f.file.importPath
  /-- Its call sites are told in the order of the document. -/
  sites : ∀ f ∈ notes, ∀ n ∈ f.entities,
    List.Forall₂ (SiteNote.Tells p) ((GraphDocument.ofProjection p).sitesOf n.id) n.sites

/-! ## The notes of a summary -/

/-- The note on a callee. -/
def calleeNote (p : Projection) (id : Nat) : CalleeNote :=
  match p.get? id with
  | some e => .shown e.name e.importPath
  | none => .hidden id

/-- The note on a group of candidates. -/
def siteNote (p : Projection) : CallGroup → SiteNote
  | [only] => .single (calleeNote p only)
  | group => .ambiguous (group.map (calleeNote p))

/-- The note on an entity. -/
def entityNote (p : Projection) (x : Nat × Entity) : EntityNote :=
  ⟨x.1, x.2.name, x.2.calls.map (siteNote p)⟩

/-- The note on a file. -/
def fileNote (c : Catalog) (p : Projection) (f : FileRow) : FileNote :=
  ⟨f, (entitiesOf c p f.id).map (entityNote p)⟩

theorem text_calleeNote (p : Projection) (v : Nat) : (calleeNote p v).text = callee p v := by
  rw [calleeNote, callee]
  cases p.get? v <;> rfl

theorem lines_siteNote (p : Projection) : (g : CallGroup) → (siteNote p g).lines = siteLines p g
  | [] => rfl
  | [v] => by rw [siteNote, SiteNote.lines, siteLines, text_calleeNote]
  | v :: w :: g => by
    simp only [siteNote, SiteNote.lines, siteLines, List.map_map, Function.comp_def,
      text_calleeNote]

theorem lines_entityNote (p : Projection) (x : Nat × Entity) :
    (entityNote p x).lines = entityLines p x.2 := by
  simp only [EntityNote.lines, entityNote, entityLines, List.isEmpty_map, List.flatMap_map,
    lines_siteNote]

theorem summary_eq (c : Catalog) (p : Projection) :
    summary c p = String.join ((c.files.map (fileNote c p)).map (·.text)) := by
  have htext : ∀ f, (fileNote c p f).text = String.join ((fileLines c p f).map (· ++ "\n")) := by
    intro f
    simp only [FileNote.text, fileNote, fileLines, List.flatMap_map, lines_entityNote]
  rw [summary, List.map_map]
  induction c.files with
  | nil => rfl
  | cons f files ih =>
    rw [List.flatMap_cons, List.map_append, String.join_append, ih, List.map_cons, String.join_cons,
      Function.comp_apply, htext]

theorem tells_calleeNote (p : Projection) (v : Nat) : (calleeNote p v).Tells p v := by
  rw [calleeNote]
  cases he : p.get? v with
  | none => exact ⟨he, rfl⟩
  | some e => exact ⟨e, he, rfl, rfl⟩

/-- A site that has candidates is told as the document flags it. -/
theorem tells_siteNote (p : Projection) {g : CallGroup} (hg : g ≠ []) (u k : Nat) :
    (siteNote p g).Tells p ⟨u, k, g, g.isAmbiguous⟩ := by
  match g, hg with
  | [only], _ => exact ⟨rfl, only, rfl, tells_calleeNote p only⟩
  | v :: w :: rest, _ =>
    refine ⟨by simp [CallGroup.isAmbiguous], ?_⟩
    rw [List.forall₂_map_right_iff, List.forall₂_same]
    exact fun v _ => tells_calleeNote p v

theorem tells_sites (p : Projection) {e : Entity} (he : ∀ g ∈ e.calls, g ≠ []) (u : Nat) :
    List.Forall₂ (SiteNote.Tells p) (GraphDocument.sites u e) (e.calls.map (siteNote p)) := by
  have hcalls : e.calls.map (siteNote p) = e.calls.zipIdx.map fun x => siteNote p x.1 := by
    rw [← Function.comp_def, ← List.map_map, List.zipIdx_map_fst]
  rw [GraphDocument.sites, hcalls, List.forall₂_map_left_iff, List.forall₂_map_right_iff,
    List.forall₂_same]
  intro x hx
  exact tells_siteNote p (he x.1 ((List.mem_zipIdx' hx).2 ▸ List.getElem_mem _)) u x.2

end Report

/-! ## Summaries of a catalog -/

namespace Catalog

open Report

variable {c : Catalog} (h : c.WellFormed)
include h

/-- What is shown has a row, in a file with a row, and the groups of its calls. -/
theorem WellFormed.exists_row_of_shown {x : Nat × Entity} (hx : x ∈ c.project.toList) :
    ∃ r ∈ c.entities, ∃ f ∈ c.files, r.id = x.1 ∧ f.id = r.fileId ∧
      x.2 = shown r f (CallGroup.byKey (CallRow.ofCaller r.id c.calls)) := by
  have hget := IdMap.get?_eq_some_iff.mpr hx
  rw [get?_project h.entities.nodup] at hget
  obtain ⟨r, hr, hfile⟩ := Option.bind_eq_some_iff.mp hget
  obtain ⟨f, hf, hshown⟩ := Option.map_eq_some_iff.mp hfile
  rw [h.file?_eq_find?] at hf
  exact ⟨r, List.mem_of_find?_eq_some hr, f, List.mem_of_find?_eq_some hf,
    by simpa using List.find?_some hr, by simpa using List.find?_some hf, hshown.symm⟩

/-- The sections share out the entities that are shown. -/
theorem WellFormed.perm_entitiesOf {p : Projection} (hp : ∀ x ∈ p.toList, x ∈ c.project.toList) :
    (c.files.flatMap fun f => entitiesOf c p f.id).Perm p.toList := by
  let fileOf (x : Nat × Entity) : Option Nat := (c.entity? x.1).map (·.fileId)
  have hentities : ∀ f, entitiesOf c p f = p.toList.filter (fileOf · == some f) := by
    intro f
    refine List.filter_congr fun x _ => ?_
    simp only [inFile, fileOf]
    cases c.entity? x.1 <;> simp
  have hkeys : (c.files.map fun f => some f.id).Nodup := by
    rw [← Function.comp_def, ← List.map_map]
    exact h.files.nodup.map (Option.some_injective _)
  have hmem : ∀ x ∈ p.toList, fileOf x ∈ c.files.map fun f => some f.id := by
    intro x hx
    obtain ⟨r, hr, f, hf, hid, hfile, -⟩ := h.exists_row_of_shown (hp x hx)
    refine List.mem_map.mpr ⟨f, hf, ?_⟩
    simp only [fileOf, ← hid, h.entity?_id hr, Option.map_some, hfile]
  have hperm := perm_flatMap_filter fileOf hkeys hmem
  rw [List.flatMap_map] at hperm
  simpa only [hentities] using hperm

/-- A note on an entity comes from what is shown, and from a row in the file of the section. -/
theorem WellFormed.exists_row_of_note {p : Projection} (hp : ∀ x ∈ p.toList, x ∈ c.project.toList)
    {n : FileNote} (hn : n ∈ c.files.map (fileNote c p)) {m : EntityNote} (hm : m ∈ n.entities) :
    ∃ x ∈ p.toList, m = entityNote p x ∧ ∃ r ∈ c.entities, r.id = x.1 ∧ r.fileId = n.file.id ∧
      x.2 = shown r n.file (CallGroup.byKey (CallRow.ofCaller r.id c.calls)) := by
  obtain ⟨f, hf, rfl⟩ := List.mem_map.mp hn
  obtain ⟨x, hmem, rfl⟩ := List.mem_map.mp hm
  obtain ⟨hx, hin⟩ := List.mem_filter.mp hmem
  obtain ⟨r, hr, f', hf', hid, hfile, hshown⟩ := h.exists_row_of_shown (hp x hx)
  rw [← hid, h.inFile_id hr, beq_iff_eq] at hin
  -- the file of the row and the file of the section have one id
  obtain rfl : f' = f := List.inj_on_of_nodup_map h.files.nodup hf' hf (hfile.trans hin)
  exact ⟨x, hx, rfl, r, hr, hid, hin, hshown⟩

/-- The notes of a well formed catalog on a part of its projection. -/
theorem WellFormed.summarizes {p : Projection} (hp : ∀ x ∈ p.toList, x ∈ c.project.toList) :
    Summarizes c p (c.files.map (fileNote c p)) where
  text := summary_eq c p
  files := by rw [List.map_map]; exact List.map_id _
  once := by
    have hids : ((c.files.map (fileNote c p)).flatMap fun f => f.entities.map (·.id)) =
        (c.files.flatMap fun f => entitiesOf c p f.id).map (·.1) := by
      simp only [List.flatMap_map, fileNote, List.map_map, List.map_flatMap]
      rfl
    rw [hids]
    exact (h.perm_entitiesOf hp).map _
  ascending n hn := by
    obtain ⟨f, -, rfl⟩ := List.mem_map.mp hn
    rw [fileNote, List.map_map, List.pairwise_map]
    exact p.ascending.filter _
  home n hn m hm := by
    obtain ⟨x, -, rfl, r, hr, hid, hfile, -⟩ := h.exists_row_of_note hp hn hm
    exact ⟨r, hr, hid, hfile⟩
  shown n hn m hm := by
    obtain ⟨x, hx, rfl, r, -, -, -, hshown⟩ := h.exists_row_of_note hp hn hm
    exact ⟨x.2, IdMap.get?_eq_some_iff.mpr hx, rfl, by rw [hshown]; rfl⟩
  sites n hn m hm := by
    obtain ⟨x, hx, rfl, r, -, -, -, hshown⟩ := h.exists_row_of_note hp hn hm
    have hfilled : ∀ g ∈ x.2.calls, g ≠ [] := by
      rw [hshown]
      exact (CallRow.regroups_byKey r.id c.calls).filled
    rw [entityNote, GraphDocument.sitesOf_ofProjection hx]
    exact tells_sites p hfilled x.1

end Catalog

namespace Store

variable {β σ : Type} [Backend β]

/-- **Summaries tell every entity once, and all outputs agree on ambiguity.** After an analysis that
succeeds, the summary of any part of the projection has a section for each file, in order, and these
share out the entities of the part : each is told once, in the section of its file, by ascending id.
A call site is told as ambiguous, with all its candidates, if the document flags it and its edges
are dashed; otherwise it is told as a single call. -/
theorem analyze_summary_agrees (s : Store β) (sources : List Source) (i : SourceReader σ)
    (o : ResolveOptions) {report : AnalysisReport}
    (h : (s.analyze (.ok sources) i o).2.2 = .ok report) (keep : IdSet) :
    let c := (s.analyze (.ok sources) i o).1.committed
    let p : Projection := c.project.restrict keep
    p.ids = (c.entities.map (·.id)).filter (· ∈ keep) ∧
    (∃ notes, Report.Summarizes c p notes) ∧
    ∀ d : DrawOptions, ∃ blocks, (p.draw d).edges = blocks.flatten ∧
      List.Forall₂ (p.DrawnFor d) (Report.GraphDocument.ofProjection p).callSites blocks := by
  intro c p
  have houtcome := s.outcome_analyze (.ok sources) i o
  rw [h] at houtcome
  have hc : c = Catalog.analyzed i o sources := houtcome.eq_of_ok.2
  have hformed : c.WellFormed := hc ▸ Catalog.wellFormed_analyzed i o sources
  have hids : c.project.ids = c.entities.map (·.id) := by
    rw [hc]
    exact (Catalog.reconciles_analysisReport i o sources).shown
  refine ⟨?_, ⟨_, hformed.summarizes fun x hx => (IdMap.mem_restrict.mp hx).1⟩, p.exists_blocks⟩
  rw [← hids, IdMap.ids, IdMap.ids, List.filter_map]
  rfl

/-- Three of the entities of two files, the calls of one of which are ambiguous and lead out of
the selection. -/
theorem analyze_summary_agrees_two_files :
    let s : Store Memory := ⟨{}, Catalog.empty⟩
    let c := (s.analyze (.ok twoFiles) bodies {}).1.committed
    let p : Projection := c.project.restrict ⟨[1, 5, 6], by decide⟩
    (s.analyze (.ok twoFiles) bodies {}).2.2 = .ok ⟨2, 0, 6, ⟨4, 1, 6, 9⟩⟩ ∧
    (∃ notes, Report.Summarizes c p notes) ∧
    Report.summary c p =
      "Module: a\n(/src/a.rs)\nDefines:\n\t- Box:\n\t\t-- No external calls\n\n" ++
      "Module: b\n(/src/b.rs)\nDefines:\n\t- run()\n\t\t-- Calls help() from b\n" ++
      "\t- help()\n\t\t-- Ambiguous call, may call any of these:\n" ++
      "\t\t\t-- Calls entity 3\n\t\t\t-- Calls run() from b\n\n" := by
  intro s c p
  have hok : (s.analyze (.ok twoFiles) bodies {}).2.2 = .ok ⟨2, 0, 6, ⟨4, 1, 6, 9⟩⟩ := by decide
  exact ⟨hok, (s.analyze_summary_agrees twoFiles bodies {} hok ⟨[1, 5, 6], by decide⟩).2.1,
    by decide +kernel⟩

end Store

end CallAtlas
