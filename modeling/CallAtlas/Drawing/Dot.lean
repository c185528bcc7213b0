import CallAtlas.Drawing.Layout

/-!
# Drawings as DOT text

`Drawing.toDot` writes a drawing in the DOT language : one line for the start of a cluster, its
label, each node, and its end; then one line for each edge. Texts stand between double quotes, with
backslashes, quotes and line ends escaped, so a text never leaves its line.
-/

namespace CallAtlas

namespace Dot

/-- Write a character of a text in another way throughout. -/
def replace (c : Char) (written : List Char) (s : List Char) : List Char :=
  s.flatMap fun x => if x = c then written else [x]

/-- A text with backslashes, quotes and line ends escaped, one after another. -/
def escape (s : List Char) : List Char :=
  replace '\n' ['\\', 'n'] (replace '"' ['\\', '"'] (replace '\\' ['\\', '\\'] s))

/-- A text between double quotes. -/
def quoted (s : String) : String :=
  "\"" ++ String.ofList (escape s.toList) ++ "\""

/-- A line indented by a number of steps. -/
def indent (depth : Nat) (line : String) : String :=
  String.join (List.replicate depth "    ") ++ line

/-- The attributes of a highlighted node. -/
def fill (highlighted : Bool) : String :=
  if highlighted then ", style=filled, fillcolor=gold" else ""

/-- The line of a node. -/
def nodeLine (n : Node) : String :=
  quoted (toString n.entity) ++ " [label=" ++ quoted n.label ++ fill n.highlighted ++ "];"

/-- The lines of a cluster, with what is nested in it. -/
def clusterLines (depth : Nat) (c : Cluster) (inside : List String) : List String :=
  [indent depth ("subgraph " ++ quoted c.place.clusterName ++ " \x7b"),
    indent (depth + 1) ("label=" ++ quoted c.label ++ ";")] ++
  c.nodes.map (fun n => indent (depth + 1) (nodeLine n)) ++
  inside ++
  [indent depth "\x7d"]

/-- The line of an edge. -/
def edgeLine (e : Edge) : String :=
  quoted (toString e.source) ++ " -> " ++ quoted (toString e.target) ++
    " [style=" ++ e.style.name ++ ", color=" ++ quoted e.color ++ "];"

end Dot

namespace Drawing

/-- The lines of the cluster at a position, with what is nested in it. -/
def linesAt (d : Drawing) (depth position : Nat) : List String :=
  match h : d.clusters[position]? with
  | none => []
  | some c =>
    Dot.clusterLines depth c (c.children.attach.flatMap fun k => d.linesAt (depth + 1) k.1)
termination_by d.clusters.length - position
decreasing_by
  exact left_lt_of_mem_children h k.2

/-- The lines of a drawing. -/
def dotLines (d : Drawing) : List String :=
  ["digraph " ++ Dot.quoted d.name ++ " \x7b",
    Dot.indent 1 "compound=true;",
    Dot.indent 1 ("rankdir=" ++ d.rankDir.name ++ ";")] ++
  d.roots.flatMap (d.linesAt 1) ++
  d.edges.map (fun e => Dot.indent 1 (Dot.edgeLine e)) ++
  ["\x7d"]

/-- The DOT text of a drawing, without a line end after its last line. -/
def toDot (d : Drawing) : String :=
  "\n".intercalate d.dotLines

end Drawing

end CallAtlas
