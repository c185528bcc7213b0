import Mathlib.Algebra.GroupWithZero.Nat
import Mathlib.Data.List.Perm.Basic
import CallAtlas.Proofs.DrawnClusters
import CallAtlas.Proofs.DotLines

/-!
# Reading DOT text back

A `Sketch` is what can be seen of a drawing : its name and direction, the forest of its clusters
with their labels and nodes, and its edges. `Dot.read` reads a sketch from a text, line by line,
with the clusters that are not closed yet on a stack. Every block of lines leaves its cluster in the
one around it (`Dot.Page.run_lines`), so every written sketch reads back (`Dot.read_text`). The DOT
text of a drawing is that of its sketch (`Drawing.dotLines_eq`), and in a forest each cluster is
written once (`Drawing.IsForest.perm_blocks`). So the text and the sketch of a drawing determine
each other, and no text in it ends early or adds a line (`Projection.read_toDot`).
-/

namespace CallAtlas

/-- A cluster with the clusters inside it. -/
structure Block where
  name : String
  label : String
  nodes : List Node
  inside : List Block
  deriving Repr

/-- What can be seen of a drawing. -/
structure Sketch where
  name : String
  rankDir : RankDir
  blocks : List Block
  edges : List Edge
  deriving Repr

namespace Dot

/-! ## Writing a sketch -/

/-- The text of a line at a depth. -/
def written (l : Nat × Line) : String :=
  indent l.1 l.2.text

end Dot

mutual

/-- The lines of a block at a depth. -/
def Block.lines (depth : Nat) : Block → List (Nat × Dot.Line)
  | ⟨name, label, nodes, inside⟩ =>
    [(depth, .cluster name), (depth + 1, .label label)] ++
    nodes.map (fun n => (depth + 1, .node n)) ++
    Block.linesAll (depth + 1) inside ++
    [(depth, .close)]

/-- The lines of blocks at a depth. -/
def Block.linesAll (depth : Nat) : List Block → List (Nat × Dot.Line)
  | [] => []
  | b :: bs => b.lines depth ++ Block.linesAll depth bs

end

theorem Block.linesAll_eq_flatMap (depth : Nat) (bs : List Block) :
    Block.linesAll depth bs = bs.flatMap (·.lines depth) := by
  induction bs with
  | nil => rfl
  | cons b bs ih => rw [Block.linesAll, ih, List.flatMap_cons]

theorem Block.length_lines (depth : Nat) : (b : Block) →
    (b.lines depth).length = 3 + b.nodes.length + (Block.linesAll (depth + 1) b.inside).length
  | ⟨name, label, nodes, inside⟩ => by
    simp only [Block.lines, List.length_append, List.length_map, List.length_cons, List.length_nil]
    omega

theorem Block.length_linesAll_flat (depth : Nat) {bs : List Block} (h : ∀ b ∈ bs, b.inside = []) :
    (Block.linesAll depth bs).length = (bs.map fun b => 3 + b.nodes.length).sum := by
  induction bs with
  | nil => rfl
  | cons b bs ih =>
    obtain ⟨hb, hbs⟩ := List.forall_mem_cons.mp h
    rw [Block.linesAll, List.length_append, Block.length_lines, hb, ih hbs, List.map_cons,
      List.sum_cons]
    rfl

/-- Blocks that nest two deep have three lines each and one for each node. -/
theorem Block.length_linesAll (depth : Nat) {bs : List Block}
    (h : ∀ b ∈ bs, ∀ k ∈ b.inside, k.inside = []) : (Block.linesAll depth bs).length =
      ((bs.flatMap fun b => b :: b.inside).map fun b => 3 + b.nodes.length).sum := by
  induction bs with
  | nil => rfl
  | cons b bs ih =>
    obtain ⟨hb, hbs⟩ := List.forall_mem_cons.mp h
    rw [Block.linesAll, List.length_append, Block.length_lines, Block.length_linesAll_flat _ hb,
      ih hbs, List.flatMap_cons, List.map_append, List.sum_append, List.map_cons, List.sum_cons]

namespace Sketch

/-- The nodes of a sketch, block by block. -/
def nodes (g : Sketch) : List Node :=
  g.blocks.flatMap fun b => (b :: b.inside).flatMap (·.nodes)

/-- The lines of a sketch. -/
def lines (g : Sketch) : List (Nat × Dot.Line) :=
  [(0, .graph g.name), (1, .compound), (1, .rankDir g.rankDir)] ++
  Block.linesAll 1 g.blocks ++
  g.edges.map (fun e => (1, .edge e)) ++
  [(0, .close)]

/-- The DOT text of a sketch. -/
def text (g : Sketch) : String :=
  "\n".intercalate (g.lines.map Dot.written)

end Sketch

namespace Dot

/-! ## Reading a sketch -/

/-- What is read so far. The clusters that are not closed yet come innermost first. -/
structure Page where
  opened : List Block := []
  blocks : List Block := []
  edges : List Edge := []

namespace Page

/-- Put a block into the innermost cluster. -/
def put (s : Page) (b : Block) : Page :=
  match s.opened with
  | [] => { s with blocks := s.blocks ++ [b] }
  | outer :: rest => { s with opened := { outer with inside := outer.inside ++ [b] } :: rest }

/-- Change the innermost cluster. -/
def amend (s : Page) (f : Block → Block) : Option Page :=
  match s.opened with
  | [] => none
  | b :: rest => some { s with opened := f b :: rest }

/-- Read a line of a cluster, or an edge. -/
def step (s : Page) : Line → Option Page
  | .cluster name => some { s with opened := ⟨name, "", [], []⟩ :: s.opened }
  | .label text => s.amend fun b => { b with label := text }
  | .node n => s.amend fun b => { b with nodes := b.nodes ++ [n] }
  | .close =>
    match s.opened with
    | [] => none
    | b :: rest => some ({ s with opened := rest }.put b)
  | .edge e => if s.opened.isEmpty then some { s with edges := s.edges ++ [e] } else none
  | .graph _ | .compound | .rankDir _ => none

/-- Read lines. -/
def run (s : Page) (lines : List Line) : Option Page :=
  lines.foldlM step s

end Page

/-- The sketch that lines give. -/
def sketch? : List Line → Option Sketch
  | .graph name :: .compound :: .rankDir dir :: body => do
    let page ← Page.run {} body.dropLast
    guard (page.opened.isEmpty ∧ body.getLast? = some .close)
    return ⟨name, dir, page.blocks, page.edges⟩
  | _ => none

/-- The sketch that a text gives. -/
def read (text : String) : Option Sketch := do
  sketch? (← (text.toList.splitOn '\n').mapM Line.read?)

/-! ## Lines of blocks -/

namespace Page

theorem run_append (s : Page) (ls ms : List Line) : s.run (ls ++ ms) = (s.run ls).bind (·.run ms) :=
  List.foldlM_append

theorem run_cons (s : Page) (l : Line) (ls : List Line) :
    s.run (l :: ls) = (s.step l).bind (·.run ls) :=
  List.foldlM_cons

theorem run_nodes (s : Page) (b : Block) (rest : List Block) (nodes : List Node) :
    run { s with opened := b :: rest } (nodes.map .node) =
      some { s with opened := { b with nodes := b.nodes ++ nodes } :: rest } := by
  induction nodes generalizing b with
  | nil =>
    obtain ⟨⟩ := b
    simp [run]
  | cons n nodes ih => simp [run_cons, step, amend, ih]

theorem run_edges (s : Page) (hs : s.opened = []) (edges : List Edge) :
    s.run (edges.map .edge) = some { s with edges := s.edges ++ edges } := by
  induction edges generalizing s with
  | nil => simp [run]
  | cons e edges ih => simp [run_cons, step, hs, ih]

/-- Blocks go into the innermost cluster in their order. -/
theorem foldl_put_opened (s : Page) (b : Block) (rest bs : List Block) :
    bs.foldl put { s with opened := b :: rest } =
      { s with opened := { b with inside := b.inside ++ bs } :: rest } := by
  induction bs generalizing b with
  | nil =>
    obtain ⟨⟩ := b
    simp
  | cons b' bs ih => simp [put, ih]

theorem foldl_put_closed (s : Page) (hs : s.opened = []) (bs : List Block) :
    bs.foldl put s = { s with blocks := s.blocks ++ bs } := by
  induction bs generalizing s with
  | nil => simp
  | cons b bs ih => simp [put, hs, ih]

mutual

/-- The lines of a block put it into the innermost cluster. -/
theorem run_lines (depth : Nat) :
    (b : Block) → (s : Page) → s.run ((b.lines depth).map (·.2)) = some (s.put b)
  | ⟨name, label, nodes, inside⟩, s => by
    -- while its lines are read the block is the innermost cluster, and closing it puts it into the
    -- next one
    have hopen : s.run [.cluster name, .label label] =
        some { s with opened := ⟨name, label, [], []⟩ :: s.opened } := rfl
    have hnodes := run_nodes s ⟨name, label, [], []⟩ s.opened nodes
    have hinside := run_linesAll (depth + 1) inside
      { s with opened := ⟨name, label, nodes, []⟩ :: s.opened }
    rw [foldl_put_opened] at hinside
    have hmap : (nodes.map fun n => (depth + 1, Line.node n)).map (·.2) = nodes.map .node :=
      List.map_map
    rw [Block.lines, List.map_append, List.map_append, List.map_append, hmap,
      run_append, run_append, run_append]
    simp only [List.map_cons, List.map_nil, hopen, Option.bind_some, hnodes,
      List.nil_append, hinside]
    rfl

theorem run_linesAll (depth : Nat) : (bs : List Block) → (s : Page) →
    s.run ((Block.linesAll depth bs).map (·.2)) = some (bs.foldl put s)
  | [], s => rfl
  | b :: bs, s => by
    rw [Block.linesAll, List.map_append, run_append, run_lines depth b s, Option.bind_some,
      run_linesAll depth bs]
    rfl

end

end Page

/-! ## Written sketches read back -/

theorem newline_notMem_written (l : Nat × Line) : '\n' ∉ (written l).toList := by
  rw [written, toList_indent]
  simp [l.2.newline_notMem_text]

/-- No text adds a line of its own. -/
theorem splitOn_text (g : Sketch) :
    g.text.toList.splitOn '\n' = (g.lines.map written).map String.toList := by
  rw [Sketch.text, String.toList_intercalate]
  refine List.splitOn_intercalate '\n' (fun cs hcs => ?_) (by simp [Sketch.lines])
  obtain ⟨s, hs, rfl⟩ := List.mem_map.mp hcs
  obtain ⟨l, -, rfl⟩ := List.mem_map.mp hs
  exact newline_notMem_written l

theorem mapM_read?_written (ls : List (Nat × Line)) :
    ((ls.map written).map String.toList).mapM Line.read? = some (ls.map (·.2)) := by
  induction ls with
  | nil => rfl
  | cons l ls ih =>
    have hfirst : Line.read? (written l).toList = some l.2 := l.2.read?_indent l.1
    rw [List.map_cons, List.map_cons, List.mapM_cons, hfirst, ih]
    rfl

theorem sketch?_lines (g : Sketch) : sketch? (g.lines.map (·.2)) = some g := by
  have hlines : g.lines.map (·.2) = .graph g.name :: .compound :: .rankDir g.rankDir ::
      ((Block.linesAll 1 g.blocks).map (·.2) ++ g.edges.map .edge ++ [.close]) := by
    simp [Sketch.lines]
  have hbody : Page.run {} ((Block.linesAll 1 g.blocks).map (·.2) ++ g.edges.map .edge) =
      some ⟨[], g.blocks, g.edges⟩ := by
    rw [Page.run_append, Page.run_linesAll, Page.foldl_put_closed {} rfl, Option.bind_some,
      Page.run_edges _ rfl]
    rfl
  rw [hlines, sketch?, List.dropLast_concat, List.getLast?_concat, hbody]
  rfl

/-- A written sketch reads back. -/
theorem read_text (g : Sketch) : read g.text = some g := by
  rw [read, splitOn_text, mapM_read?_written]
  exact sketch?_lines g

end Dot

/-! ## The sketch of a drawing -/

namespace Drawing

variable {d : Drawing}

/-- The cluster at a position with what is nested in it. -/
def block? (d : Drawing) (position : Nat) : Option Block :=
  match _hc : d.clusters[position]? with
  | none => none
  | some c =>
    some ⟨c.place.clusterName, c.label, c.nodes, c.children.attach.filterMap fun k => d.block? k.1⟩
termination_by d.clusters.length - position
decreasing_by
  exact left_lt_of_mem_children _hc k.2

/-- What can be seen of a drawing. -/
def sketch (d : Drawing) : Sketch where
  name := d.name
  rankDir := d.rankDir
  blocks := d.roots.filterMap d.block?
  edges := d.edges

/-- A cluster with what is nested in it. -/
def blockOf (d : Drawing) (c : Cluster) : Block :=
  ⟨c.place.clusterName, c.label, c.nodes, c.children.filterMap d.block?⟩

theorem block?_eq (d : Drawing) (k : Nat) : d.block? k = d.clusters[k]?.map d.blockOf := by
  rw [block?]
  split
  · rename_i hnone
    rw [hnone]
    rfl
  · rename_i c hc
    have hchildren : (c.children.attach.filterMap fun k => d.block? k.1) =
        c.children.filterMap d.block? :=
      List.filterMap_map.symm.trans (by rw [List.attach_map_subtype_val])
    rw [hc, Option.map_some, blockOf, hchildren]

/-! ## The text of a drawing -/

theorem clusterLines_eq (depth : Nat) (c : Cluster) (bs : List Block) :
    Dot.clusterLines depth c ((bs.flatMap (·.lines (depth + 1))).map Dot.written) =
      (Block.lines depth ⟨c.place.clusterName, c.label, c.nodes, bs⟩).map Dot.written := by
  simp [Dot.clusterLines, Block.lines, Dot.written, Dot.Line.text, Block.linesAll_eq_flatMap]

theorem flatMap_attach {α β : Type} (l : List α) (f : α → List β) :
    l.attach.flatMap (fun x => f x.1) = l.flatMap f := by
  rw [← List.flatMap_map, List.attach_map_subtype_val]

theorem lines_filterMap (d : Drawing) (depth : Nat) (ks : List Nat) :
    ((ks.filterMap d.block?).flatMap (·.lines depth)).map Dot.written =
      ks.flatMap fun k => ((d.block? k).toList.flatMap (·.lines depth)).map Dot.written := by
  rw [List.filterMap_eq_flatMap_toList, List.flatMap_assoc, List.map_flatMap]

/-- The lines at a position are those of the block there. -/
theorem linesAt_eq (d : Drawing) (depth k : Nat) :
    d.linesAt depth k = ((d.block? k).toList.flatMap (·.lines depth)).map Dot.written := by
  fun_induction d.linesAt depth k with
  | case1 depth k hnone =>
    rw [block?_eq, hnone]
    rfl
  | case2 depth k c hc ih =>
    have hinside : (c.children.attach.flatMap fun j => d.linesAt (depth + 1) j.1) =
        ((c.children.filterMap d.block?).flatMap (·.lines (depth + 1))).map Dot.written := by
      rw [lines_filterMap, flatMap_attach c.children (d.linesAt (depth + 1))]
      exact List.flatMap_congr fun j hj => ih ⟨j, hj⟩
    rw [hinside, clusterLines_eq, block?_eq, hc, Option.map_some, Option.toList_some,
      List.flatMap_singleton, blockOf]

/-- The lines of a drawing are those of its sketch. -/
theorem dotLines_eq (d : Drawing) : d.dotLines = d.sketch.lines.map Dot.written := by
  have hblocks : d.roots.flatMap (d.linesAt 1) =
      (Block.linesAll 1 d.sketch.blocks).map Dot.written := by
    rw [Block.linesAll_eq_flatMap, sketch, lines_filterMap]
    exact List.flatMap_congr fun k _ => d.linesAt_eq 1 k
  have hedges : d.edges.map (fun e => Dot.indent 1 (Dot.edgeLine e)) =
      (d.sketch.edges.map fun e => (1, Dot.Line.edge e)).map Dot.written := by
    rw [List.map_map]
    rfl
  have hflush (s : String) : Dot.indent 0 s = s := String.empty_append
  rw [dotLines, hblocks, hedges]
  simp only [Sketch.lines, List.map_append, List.map_cons, List.map_nil, Dot.written, hflush]
  rfl

theorem toDot_eq_text (d : Drawing) : d.toDot = d.sketch.text := by
  rw [toDot, dotLines_eq]
  rfl

/-- The text of every drawing reads back. -/
theorem read_toDot_eq (d : Drawing) : Dot.read d.toDot = some d.sketch := by
  rw [toDot_eq_text, Dot.read_text]

/-! ## Each cluster is written once -/

/-- What is written of a cluster itself : its name, its label and its nodes. -/
def heading (c : Cluster) : String × String × List Node :=
  (c.place.clusterName, c.label, c.nodes)

/-- The positions in the order in which their clusters are written. -/
def listing (d : Drawing) : List Nat :=
  d.roots.flatMap fun k => k :: d.childrenAt k

theorem flatMap_blocks (d : Drawing) :
    (d.sketch.blocks.flatMap fun b => b :: b.inside) = d.listing.filterMap d.block? := by
  rw [sketch, List.filterMap_eq_flatMap_toList, List.flatMap_assoc, listing, List.filterMap_flatMap]
  refine List.flatMap_congr fun k _ => ?_
  rw [List.filterMap_cons, block?_eq, childrenAt]
  cases d.clusters[k]? with
  | none => rfl
  | some c => simp [blockOf]

namespace IsForest

variable (h : d.IsForest)
include h

/-- Nothing is nested in what is nested in a root. -/
theorem childrenAt_child {j k : Nat} (hk : k ∈ d.roots) (hj : j ∈ d.childrenAt k) :
    d.childrenAt j = [] := by
  have hnodup := h.listed.nodup_iff.mpr List.nodup_range
  exact h.shallow j fun hroot =>
    (List.nodup_append'.mp hnodup).2.2 hroot (List.mem_flatMap.mpr ⟨k, hk, hj⟩)

theorem inside_inside {b k : Block} (hb : b ∈ d.sketch.blocks) (hk : k ∈ b.inside) :
    k.inside = [] := by
  obtain ⟨i, hi, hb⟩ := List.mem_filterMap.mp hb
  rw [block?_eq, Option.map_eq_some_iff] at hb
  obtain ⟨c, hc, rfl⟩ := hb
  obtain ⟨j, hj, hk⟩ := List.mem_filterMap.mp hk
  rw [block?_eq, Option.map_eq_some_iff] at hk
  obtain ⟨a, ha, rfl⟩ := hk
  have hnone := h.childrenAt_child hi (j := j) (by rwa [childrenAt, hc])
  rw [childrenAt, ha, Option.elim_some] at hnone
  rw [blockOf, hnone]
  rfl

/-- The blocks of a drawing, each with those inside it, are those of its clusters. -/
theorem perm_blocks :
    ((d.sketch.blocks.flatMap fun b => b :: b.inside).map fun b => (b.name, b.label, b.nodes)).Perm
      (d.clusters.map heading) := by
  have hlisting : d.listing.Perm (List.range d.clusters.length) := by
    have hapart := (List.map_append_flatMap_perm d.roots id d.childrenAt).symm
    rw [List.map_id] at hapart
    exact hapart.trans h.listed
  have hheading : ∀ k, (d.block? k).map (fun b => (b.name, b.label, b.nodes)) =
      d.clusters[k]?.map heading := by
    intro k
    rw [block?_eq, Option.map_map]
    rfl
  have hblocks : (d.sketch.blocks.flatMap fun b => b :: b.inside).map
      (fun b => (b.name, b.label, b.nodes)) =
        d.listing.filterMap fun k => d.clusters[k]?.map heading := by
    rw [flatMap_blocks, List.map_filterMap]
    exact List.filterMap_congr fun k _ => hheading k
  have hclusters : d.clusters.map heading =
      (List.range d.clusters.length).filterMap fun k => d.clusters[k]?.map heading := by
    rw [← List.map_filterMap, filterMap_range]
  rw [hblocks, hclusters]
  exact hlisting.filterMap _

/-- A sketch has the nodes of its drawing. -/
theorem perm_nodes_sketch : d.sketch.nodes.Perm d.nodes := by
  have hblocks : d.sketch.nodes = ((d.sketch.blocks.flatMap fun b => b :: b.inside).map
      fun b => (b.name, b.label, b.nodes)).flatMap (·.2.2) := by
    rw [List.flatMap_map, List.flatMap_assoc]
    rfl
  have hclusters : d.nodes = (d.clusters.map heading).flatMap (·.2.2) := by
    rw [List.flatMap_map]
    rfl
  rw [hblocks, hclusters]
  exact h.perm_blocks.flatMap_right _

/-- There are three lines for each cluster and one for each node and edge. -/
theorem length_dotLines : d.dotLines.length =
    4 + 3 * d.clusters.length + d.nodeCount + d.edges.length := by
  have hblocks := Block.length_linesAll 1 fun b hb k hk => h.inside_inside hb hk
  have hperm := (h.perm_blocks.map fun x => 3 + x.2.2.length).sum_nat
  have hrows : (d.clusters.map fun c => 3 + c.nodes.length).sum =
      3 * d.clusters.length + d.nodeCount := by
    rw [nodeCount, List.length_flatMap]
    induction d.clusters with
    | nil => rfl
    | cons c cs ih =>
      simp only [List.map_cons, List.sum_cons, ih, List.length_cons]
      omega
  simp only [List.map_map, Function.comp_def, heading] at hperm
  have hedges : d.sketch.edges = d.edges := rfl
  rw [dotLines_eq, List.length_map, Sketch.lines]
  simp only [List.length_append, List.length_map, List.length_cons, List.length_nil, hblocks, hperm,
    hrows, hedges]
  omega

end IsForest

end Drawing

namespace Projection

/-- The DOT text of a drawing can be read back. Texts and sketches determine each other : drawings
with the same text have the same name, direction, clusters in their order and edges. The lines of
the text are those that are written, as many as the clusters, nodes and edges need, and a quoted
text ends where it was closed. -/
theorem read_toDot (p : Projection) (o : DrawOptions) :
    Dot.read (p.draw o).toDot = some (p.draw o).sketch ∧
    (∀ (q : Projection) (o' : DrawOptions),
      (p.draw o).toDot = (q.draw o').toDot ↔ (p.draw o).sketch = (q.draw o').sketch) ∧
    (p.draw o).toDot.toList.splitOn '\n' = (p.draw o).dotLines.map String.toList ∧
    (p.draw o).dotLines.length =
      4 + 3 * (p.draw o).clusters.length + (p.draw o).nodeCount + (p.draw o).edges.length ∧
    ∀ (s : String) (rest : List Char),
      Dot.quotedText ((Dot.quoted s).toList ++ rest) = some (s, rest) := by
  refine ⟨(p.draw o).read_toDot_eq, fun q o' => ⟨fun htext => ?_, fun hsketch => ?_⟩, ?_,
    (p.isForest_draw o).length_dotLines, Dot.takes_quotedText⟩
  · have hsame : some (p.draw o).sketch = some (q.draw o').sketch := by
      rw [← Drawing.read_toDot_eq, htext, Drawing.read_toDot_eq]
    exact Option.some.inj hsame
  · rw [Drawing.toDot_eq_text, Drawing.toDot_eq_text, hsketch]
  · rw [Drawing.toDot_eq_text, Dot.splitOn_text, Drawing.dotLines_eq]

end Projection

end CallAtlas
