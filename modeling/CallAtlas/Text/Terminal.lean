/-!
# Texts without control sequences

Control characters do not print, and neither do the sequences that an escape character opens.
`Terminal.visible` is what a text leaves without them. Line ends, tabs and the like are kept. Inside
a sequence they break it off, unless it is a string.
-/

namespace CallAtlas.Text.Terminal

/-- Where a character stands. -/
inductive Mode where
  | plain
  /-- After an escape character. -/
  | escape
  /-- After an escape character and marks. -/
  | marks
  /-- In a control sequence, which a letter ends. -/
  | control
  /-- In a string, which a bell may end. -/
  | string (endsWithBell : Bool)
  deriving DecidableEq, Repr

/-- A control character that moves on in the text. -/
def isLayout (c : Char) : Bool :=
  c = '\t' || c = '\n' || c = '\x0c' || c = '\r'

/-- The mode after a character that is not a control character. -/
def Mode.after (m : Mode) (c : Char) : Mode :=
  match m with
  | .escape =>
    if c ≤ '/' then .marks
    else if c = '[' then .control
    else if c = ']' then .string true
    else if c = 'P' || c = 'X' || c = '^' || c = '_' then .string false
    else if c ≤ '~' then .plain
    else .escape
  | .marks => if '0' ≤ c && c ≤ '~' then .plain else .marks
  | .control => if '@' ≤ c && c ≤ '~' then .plain else .control
  | m => m

/-- The mode after a character, and whether the character prints. -/
def Mode.step (m : Mode) (c : Char) : Mode × Bool :=
  if c = '\x1b' then (.escape, false)
  else if c = '\x18' || c = '\x1a' then (.plain, false)
  else
    match m with
    | .plain => (.plain, isLayout c || (' ' ≤ c && c ≠ '\x7f'))
    | .string endsWithBell => (if endsWithBell && c = '\x07' then .plain else m, false)
    | m =>
      if isLayout c then (.plain, true)
      else if c < ' ' then (m, false)
      else (m.after c, false)

/-- The characters that print, from a mode on. -/
def visibleFrom (m : Mode) : List Char → List Char
  | [] => []
  | c :: cs =>
    let (next, prints) := m.step c
    if prints then c :: visibleFrom next cs else visibleFrom next cs

/-- What prints of a text. -/
def visible (s : String) : String :=
  String.ofList (visibleFrom .plain s.toList)

end CallAtlas.Text.Terminal
