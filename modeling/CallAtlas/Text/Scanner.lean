/-!
# Scanners

A `Scanner` takes characters from the front of a text, or fails. A failed scanner takes nothing, so
an alternative can be tried in its place. Repetition is bounded by the number of characters that are
left, which a scanner that takes a character in each round cannot exceed.
-/

namespace CallAtlas.Text

/-- Take a value from the front of a text, or fail. -/
abbrev Scanner := StateT (List Char) Option

namespace Scanner

variable {α β : Type}

/-- Succeed when a condition holds. -/
def require (b : Bool) : Scanner Unit :=
  if b then pure () else failure

/-- Whether nothing is left. -/
def atEnd : Scanner Bool :=
  return (← get).isEmpty

/-- The next character. -/
def peek : Scanner (Option Char) :=
  return (← get).head?

/-- Take a character that passes a test. -/
def satisfy (p : Char → Bool) : Scanner Char := do
  match ← get with
  | c :: cs => require (p c); set cs; return c
  | [] => failure

/-- Take the given character. -/
def char (c : Char) : Scanner Unit := do
  let _ ← satisfy (· == c)

/-- Take all characters in front that pass a test. -/
def takeWhile (p : Char → Bool) : Scanner (List Char) := do
  let cs ← get
  set (cs.dropWhile p)
  return cs.takeWhile p

/-- Take all characters in front that pass a test, at least one. -/
def takeWhile1 (p : Char → Bool) : Scanner (List Char) := do
  let cs ← takeWhile p
  require !cs.isEmpty
  return cs

/-- Take the given text. -/
def text (s : String) : Scanner Unit := do
  let cs ← get
  require (s.toList.isPrefixOf cs)
  set (cs.drop s.length)

/-- Try a scanner, and say whether it succeeded. -/
def reads (r : Scanner α) : Scanner Bool :=
  (do let _ ← r; return true) <|> pure false

/-- Repeat a scanner until it fails, at most a number of times. -/
def manyUpTo (r : Scanner α) : Nat → Scanner (List α)
  | 0 => pure []
  | n + 1 => do
    match ← optional r with
    | none => pure []
    | some a => return a :: (← manyUpTo r n)

/-- Repeat a scanner until it fails. -/
def many (r : Scanner α) : Scanner (List α) := do
  manyUpTo r (← get).length

/-- One or more, with a separator between them. -/
def separated1 (sep : Scanner β) (r : Scanner α) : Scanner (List α) := do
  let first ← r
  return first :: (← many (do let _ ← sep; r))

/-- Scan the whole of a text. -/
def whole (r : Scanner α) (cs : List Char) : Option α :=
  match r cs with
  | some (a, []) => some a
  | _ => none

end Scanner

end CallAtlas.Text
