/-!
# The colour wheel

Edges take their colours from a palette in turn : the first colour, then backwards from the last
one, and round again.
-/

namespace CallAtlas

/-- The colours of edges. -/
def palette : List String := [
  "aquamarine", "antiquewhite4", "aquamarine3", "azure3", "bisque2", "blue", "blueviolet", "brown4",
  "burlywood4", "cadetblue4", "chartreuse4", "chocolate4", "coral3", "cornsilk3", "cyan2",
  "darkgoldenrod", "darkgray", "darkolivegreen", "darkorange", "darkorchid", "darkred",
  "darkseagreen3", "darkslategray2", "darkviolet", "deeppink4", "deepskyblue4", "dodgerblue2",
  "firebrick2", "gold2", "goldenrod2"]

/-- A place on the palette. -/
structure ColorWheel where
  cursor : Fin palette.length
  deriving DecidableEq, Repr

namespace ColorWheel

/-- A new wheel stands at the first colour. -/
def new : ColorWheel :=
  ⟨⟨0, by decide⟩⟩

/-- The colour that the wheel stands at. -/
def color (w : ColorWheel) : String :=
  palette.get w.cursor

/-- Turn the wheel back by one place. -/
def turn (w : ColorWheel) : ColorWheel :=
  ⟨⟨(w.cursor.val + (palette.length - 1)) % palette.length, Nat.mod_lt _ (by decide)⟩⟩

/-- The next colours of a wheel. -/
def colors (w : ColorWheel) : Nat → List String
  | 0 => []
  | n + 1 => w.color :: w.turn.colors n

end ColorWheel

end CallAtlas
