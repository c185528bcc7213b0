import CallAtlas.Drawing.Palette
import CallAtlas.Ids.Set
import CallAtlas.Text.Blank
import CallAtlas.Text.Quoted
import CallAtlas.Text.Uppercase

/-!
# How a call graph is drawn

The options of a drawing : its name and direction, the colours of its edges, which calls are left
out, and which entities are highlighted.
-/

namespace CallAtlas

/-- The direction in which a drawing grows. -/
inductive RankDir where
  | topBottom
  | bottomTop
  | rightLeft
  | leftRight
  deriving DecidableEq, Repr

namespace RankDir

/-- All directions. -/
def all : List RankDir :=
  [.topBottom, .bottomTop, .rightLeft, .leftRight]

/-- The word for a direction. -/
def name : RankDir → String
  | .topBottom => "TB"
  | .bottomTop => "BT"
  | .rightLeft => "RL"
  | .leftRight => "LR"

/-- The direction with the given word. -/
def ofName? (s : String) : Option RankDir :=
  all.find? (·.name = s)

/-- The direction that a text in any case gives, or what is wrong with it. -/
def parse (s : String) : Except String RankDir :=
  let upper := Text.Uppercase.ofString s
  match ofName? upper with
  | some d => .ok d
  | none => .error ("unknown rankdir " ++ Text.quote upper ++ " (expected TB, BT, RL or LR)")

end RankDir

/-- The colour of edges : a new one for each call site, or always the same. -/
inductive EdgeColor where
  | rotate
  | fixed (color : String)
  deriving DecidableEq, Repr

namespace EdgeColor

/-- The colour that a text names. The word `rotate`, in any case, asks for new colours. -/
def ofString (s : String) : EdgeColor :=
  if s.toLower = "rotate" then .rotate else .fixed s

/-- The text of a colour. -/
def toText : EdgeColor → String
  | .rotate => "rotate"
  | .fixed c => c

/-- The colour that a text names, or what is wrong with it : a blank text names none. -/
def parse (s : String) : Except String EdgeColor :=
  if (Text.trimList s.toList).isEmpty then .error "edge colour must not be empty"
  else .ok (ofString s)

end EdgeColor

/-- The options of a drawing. -/
structure DrawOptions where
  graphName : String := "Callflow Analysis"
  rankDir : RankDir := .leftRight
  edgeColor : EdgeColor := .rotate
  /-- Leave out calls of an entity by itself. -/
  suppressRecursive : Bool := false
  /-- Draw at most one edge from one entity to another. -/
  combineCalls : Bool := false
  /-- Draw no nodes for classes. -/
  suppressClasses : Bool := false
  highlight : IdSet := ∅
  deriving DecidableEq, Repr

/-- The options with every simplification. -/
def DrawOptions.simplified (o : DrawOptions) : DrawOptions :=
  { o with suppressRecursive := true, combineCalls := true, suppressClasses := true }

end CallAtlas
