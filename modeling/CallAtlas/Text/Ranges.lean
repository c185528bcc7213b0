/-!
# Sets of characters given by ranges

A `Ranges` lists closed ranges of code points in ascending order. `Ranges.contains` walks the list
and stops at the first range that begins past the character.
-/

namespace CallAtlas.Text

/-- Closed ranges of code points, in ascending order. -/
abbrev Ranges := List (Nat × Nat)

/-- Whether a code point lies in one of the ranges. -/
def Ranges.has : Ranges → Nat → Bool
  | [], _ => false
  | (lo, hi) :: rest, n => if n < lo then false else n ≤ hi || Ranges.has rest n

/-- Whether a character lies in one of the ranges. -/
def Ranges.contains (rs : Ranges) (c : Char) : Bool :=
  rs.has c.toNat

end CallAtlas.Text
