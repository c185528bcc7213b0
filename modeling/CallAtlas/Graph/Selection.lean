import CallAtlas.Graph.Reach
import CallAtlas.Text.Blank
import CallAtlas.Text.Decimal
import CallAtlas.Text.Quoted
import CallAtlas.Text.Split
import CallAtlas.Warning

/-!
# Selections as text

A selection is written as ids with commas between them, white space around an id allowed.
`Selection.parse` reads it; the first part that is no id is the error. `Projection.pruneByText`
prunes by a selection given as text, and leaves the projection as it is when the text is no
selection.
-/

namespace CallAtlas

/-- What is wrong with a text that is no selection. -/
inductive SelectionError where
  | empty
  | invalidId (part : String)
  deriving DecidableEq, Repr

/-- The wording of an error. -/
def SelectionError.message : SelectionError → String
  | .empty => "empty entity selection"
  | .invalidId part => "invalid entity id " ++ Text.quote part ++ " in selection"

namespace Selection

/-- One id of a selection. -/
def parsePart (part : List Char) : Except SelectionError Nat :=
  let part := Text.trimList part
  match Text.Decimal.word? part with
  | some id => .ok id
  | none => .error (.invalidId (String.ofList part))

/-- The ids of the parts, up to the first that is none. -/
def parseParts : List (List Char) → Except SelectionError (List Nat)
  | [] => .ok []
  | part :: parts =>
    match parsePart part with
    | .error e => .error e
    | .ok id =>
      match parseParts parts with
      | .error e => .error e
      | .ok ids => .ok (id :: ids)

/-- The selection that a text gives. -/
def parse (text : String) : Except SelectionError IdSet :=
  if (Text.trimList text.toList).isEmpty then .error .empty
  else (parseParts (Text.splitOn ',' text.toList)).map IdSet.ofList

end Selection

/-- The warning that a text is no selection. -/
def SelectionError.warning (text : String) (e : SelectionError) : Warning where
  message := "unable to parse entity selection " ++ Text.quote text ++ ": " ++ e.message

/-- Prune by a selection given as text. -/
def Projection.pruneByText (p : Projection) (text : String) : Projection × List Warning :=
  match Selection.parse text with
  | .ok s => (p.prune s, [])
  | .error e => (p, [e.warning text])

end CallAtlas
