import CallAtlas.Text.Ranges

/-!
# White space

`isBlank` holds of the characters with the Unicode property `White_Space`. `trim` drops them from
both ends of a text.
-/

namespace CallAtlas.Text

/-- Characters with the property `White_Space`. -/
def blankRanges : Ranges := [
  (9, 13), (32, 32), (133, 133), (160, 160), (5760, 5760), (8192, 8202), (8232, 8233),
  (8239, 8239), (8287, 8287), (12288, 12288)]

/-- A white-space character. -/
def isBlank (c : Char) : Bool :=
  blankRanges.contains c

/-- Drop white space from both ends. -/
def trimList (cs : List Char) : List Char :=
  ((cs.dropWhile isBlank).reverse.dropWhile isBlank).reverse

/-- Drop white space from both ends. -/
def trim (s : String) : String :=
  String.ofList (trimList s.toList)

end CallAtlas.Text
