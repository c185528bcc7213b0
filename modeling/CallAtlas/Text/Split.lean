/-!
# Splitting text

`splitOn sep` cuts a text at every separator. A text with `n` separators has `n + 1` parts, empty
ones included.
-/

namespace CallAtlas.Text

/-- The parts of a text between separators. -/
def splitOn (sep : Char) : List Char → List (List Char)
  | [] => [[]]
  | c :: cs =>
    if c = sep then [] :: splitOn sep cs
    else
      match splitOn sep cs with
      | [] => [[c]]
      | part :: parts => (c :: part) :: parts

/-- There is always a first part. -/
theorem splitOn_ne_nil (sep : Char) : (cs : List Char) → splitOn sep cs ≠ []
  | [] => by simp [splitOn]
  | c :: cs => by
    rw [splitOn]
    split
    · simp
    · split <;> simp

end CallAtlas.Text
