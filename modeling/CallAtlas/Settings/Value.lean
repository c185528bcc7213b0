/-!
# Settings as values

The values that settings are written with. Only what a setting can mean is kept : all floating
numbers are alike, and so are all dates and times, because no setting takes one.
-/

namespace CallAtlas.Settings

/-- A value in a settings text. -/
inductive Value where
  | null
  | bool (b : Bool)
  | integer (i : Int)
  | float
  | text (s : String)
  | date
  | list (items : List Value)
  | table (fields : List (String × Value))

end CallAtlas.Settings
