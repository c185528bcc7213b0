import CallAtlas.Catalog.Resolution
import CallAtlas.Drawing.Options
import CallAtlas.Settings.Value
import CallAtlas.Text.Decimal

/-!
# Settings from values

A group of settings is written as a table of named settings, or as a list of settings in their fixed
order. A setting that is not given has its default, names that are not known are passed over, and a
value of the wrong type is refused. JSON and TOML differ in what they have to say "nothing" with,
and in whether a list may go on after the last setting.
-/

namespace CallAtlas.Settings

/-- The notation that a value comes from. -/
inductive Format where
  | toml
  | json
  deriving DecidableEq

/-- Settings by name or in order. -/
inductive Group where
  | named (fields : List (String × Value))
  | listed (items : List Value)

namespace Group

/-- The group with at most `size` settings that a value gives. A date has no settings. -/
def ofValue? (f : Format) (size : Nat) : Value → Option Group
  | .table fields => some (.named fields)
  | .list items => if f = .json && size < items.length then none else some (.listed items)
  | .date => some (.named [])
  | _ => none

/-- The setting with a name and a place in the order. -/
def setting {α : Type} (g : Group) (place : Nat) (name : String) (decode : Value → Option α)
    (default : α) :
    Option α :=
  let given := match g with
    | .named fields => fields.lookup name
    | .listed items => items[place]?
  match given with
  | none => some default
  | some v => decode v

end Group

/-! ## Single settings -/

/-- A truth value. -/
def bool? : Value → Option Bool
  | .bool b => some b
  | _ => none

/-- A text. -/
def text? : Value → Option String
  | .text s => some s
  | _ => none

/-- A list of texts. -/
def texts? : Value → Option (List String)
  | .list items => items.mapM text?
  | _ => none

/-- A number of 64 bits. -/
def natural? : Value → Option Nat
  | .integer i => if 0 ≤ i && i.toNat < Text.Decimal.wordLimit then some i.toNat else none
  | _ => none

/-- A setting that may be null. -/
def nullable? {α : Type} (decode : Value → Option α) : Value → Option (Option α)
  | .null => some none
  | v => (decode v).map some

/-- A limit. -/
def limit? (v : Value) : Option Limit :=
  (natural? v).bind Limit.ofNat?

/-- Whether a value says nothing. -/
def isNothing : Format → Value → Bool
  | .json, .null => true
  | .toml, .list [] => true
  | .toml, .table [] => true
  | _, _ => false

/-- A direction : its word, or a table with its word as the only key. -/
def rankDir? (f : Format) : Value → Option RankDir
  | .text s => RankDir.ofName? s
  | .table [(s, v)] => if isNothing f v then RankDir.ofName? s else none
  | _ => none

/-- The colour of edges. -/
def edgeColor? (v : Value) : Option EdgeColor :=
  (text? v).map EdgeColor.ofString

/-! ## Options -/

/-- The options of a resolution. -/
def resolveOptions? (f : Format) (v : Value) : Option ResolveOptions := do
  let g ← Group.ofValue? f 4 v
  let d : ResolveOptions := {}
  return {
    suppressInitializers :=
      ← g.setting 0 "suppress_initializer_calls" bool? d.suppressInitializers
    matchToFile := ← g.setting 1 "match_to_file" bool? d.matchToFile
    initializers := ← g.setting 2 "initializer_names" texts? d.initializers
    maxCandidates := ← g.setting 3 "max_candidates" (nullable? limit?) d.maxCandidates }

/-- The options of a drawing. Highlights are no setting. -/
def drawOptions? (f : Format) (v : Value) : Option DrawOptions := do
  let g ← Group.ofValue? f 6 v
  let d : DrawOptions := {}
  return {
    graphName := ← g.setting 0 "graph_name" text? d.graphName
    rankDir := ← g.setting 1 "rankdir" (rankDir? f) d.rankDir
    edgeColor := ← g.setting 2 "edge_color" edgeColor? d.edgeColor
    suppressRecursive := ← g.setting 3 "suppress_recursive_calls" bool? d.suppressRecursive
    combineCalls := ← g.setting 4 "combine_calls" bool? d.combineCalls
    suppressClasses := ← g.setting 5 "suppress_class_references" bool? d.suppressClasses }

end CallAtlas.Settings
