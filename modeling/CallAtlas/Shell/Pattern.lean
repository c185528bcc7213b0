/-!
# Patterns

A pattern matches whole texts. A question mark stands for one byte, a star for any number of them,
and brackets for one byte of a set; quoted characters stand for themselves. A text is matched byte
by byte.
-/

namespace CallAtlas.Shell

/-- A character of a pattern, and whether it was quoted. -/
abbrev Marked := UInt8 × Bool

/-- Characters that were all quoted or all unquoted. -/
def marked (quoted : Bool) (s : String) : List Marked :=
  s.toUTF8.toList.map (·, quoted)

/-- A set of bytes : single ones, ranges, and classes. -/
inductive Member where
  | range (low high : UInt8)
  | named (name : String)
  deriving DecidableEq, Repr

/-- An element of a pattern. -/
inductive PatternPart where
  | one (b : UInt8)
  | any
  | many
  | set (negated : Bool) (members : List Member)
  deriving DecidableEq, Repr

/-- The elements of a pattern. -/
abbrev Pattern := List PatternPart

namespace Pattern

/-- The byte of an ASCII character. -/
def byte (c : Char) : UInt8 :=
  c.toNat.toUInt8

/-- Whether a byte belongs to a named class. -/
def inClass (name : String) (b : UInt8) : Bool :=
  let c := Char.ofNat b.toNat
  b < 128 &&
    match name with
    | "alpha" => c.isAlpha
    | "digit" => c.isDigit
    | "alnum" => c.isAlphanum
    | "upper" => c.isUpper
    | "lower" => c.isLower
    | "space" => c == ' ' || (9 ≤ b && b ≤ 13)
    | "blank" => c == ' ' || c == '\t'
    | "punct" => 33 ≤ b && b ≤ 126 && !c.isAlphanum
    | "print" => 32 ≤ b && b ≤ 126
    | "graph" => 33 ≤ b && b ≤ 126
    | "cntrl" => b < 32 || b == 127
    | "xdigit" => c.isDigit || ('a' ≤ c && c ≤ 'f') || ('A' ≤ c && c ≤ 'F')
    | _ => false

/-- Whether a byte is in a set. -/
def Member.holds (b : UInt8) : Member → Bool
  | .range low high => low ≤ b && b ≤ high
  | .named name => inClass name b

/-- The name of a class, after its opening bracket and colon, and what comes after it. -/
def className (cs : List Marked) : Option (String × List Marked) :=
  let name := (cs.takeWhile fun c => c.1 != byte ':').map (·.1)
  match cs.drop name.length with
  | (58, _) :: (93, _) :: rest => some (String.ofList (name.map fun b => Char.ofNat b.toNat), rest)
  | _ => none

/-- Read the members of a set up to its closing bracket. A bracket at the start is a member. -/
def members : Nat → Bool → List Marked → Option (List Member × List Marked)
  | 0, _, _ => none
  | _, _, [] => none
  | n + 1, first, (b, quoted) :: cs =>
    let one (low : UInt8) (cs : List Marked) : Option (List Member × List Marked) :=
      match cs with
      | (45, false) :: (high, highQuoted) :: rest =>
        if high == byte ']' && !highQuoted then
          (members n false cs).map fun (ms, rest) => (.range low low :: ms, rest)
        else (members n false rest).map fun (ms, rest) => (.range low high :: ms, rest)
      | _ => (members n false cs).map fun (ms, rest) => (.range low low :: ms, rest)
    if b == byte ']' && !quoted && !first then some ([], cs)
    else if b == byte '[' && !quoted && cs.head?.map (·.1) == some (byte ':') then
      match className cs.tail with
      | some (name, rest) => (members n false rest).map fun (ms, rest) => (.named name :: ms, rest)
      | none => one b cs
    else one b cs

/-- Read a pattern of at most a number of characters. -/
def ofMarkedUpTo : Nat → List Marked → Pattern
  | 0, _ => []
  | _, [] => []
  | n + 1, (b, true) :: cs => .one b :: ofMarkedUpTo n cs
  | n + 1, (b, false) :: cs =>
    if b == byte '?' then .any :: ofMarkedUpTo n cs
    else if b == byte '*' then .many :: ofMarkedUpTo n cs
    else if b == byte '[' then
      let (negated, inner) := match cs with
        | (33, false) :: rest => (true, rest)
        | _ => (false, cs)
      match members (n + 1) true inner with
      | some (ms, rest) => .set negated ms :: ofMarkedUpTo n rest
      | none => .one b :: ofMarkedUpTo n cs
    else if b == byte '\\' then
      match cs with
      | (c, _) :: rest => .one c :: ofMarkedUpTo n rest
      | [] => [.one b]
    else .one b :: ofMarkedUpTo n cs

/-- The pattern that characters give. -/
def ofMarked (cs : List Marked) : Pattern :=
  ofMarkedUpTo cs.length cs

/-- A text and all its ends. -/
def ends : List UInt8 → List (List UInt8)
  | [] => [[]]
  | b :: bs => (b :: bs) :: ends bs

/-- Whether a pattern matches a text. -/
def fits : Pattern → List UInt8 → Bool
  | [], bs => bs.isEmpty
  | .many :: ps, bs => (ends bs).any (fits ps)
  | .one c :: ps, b :: bs => c == b && fits ps bs
  | .any :: ps, _ :: bs => fits ps bs
  | .set negated ms :: ps, b :: bs => (ms.any (Member.holds b) != negated) && fits ps bs
  | _ :: _, [] => false

/-- The first length that passes a test. -/
def firstLength (p : Nat → Bool) (lengths : List Nat) : Nat :=
  (lengths.find? p).getD 0

/-- A text without the shortest or longest start that a pattern matches. -/
def dropStart (p : Pattern) (longest : Bool) (bs : List UInt8) : List UInt8 :=
  let lengths := List.range (bs.length + 1)
  bs.drop (firstLength (fun n => p.fits (bs.take n)) (if longest then lengths.reverse else lengths))

/-- A text without the shortest or longest end that a pattern matches. -/
def dropEnd (p : Pattern) (longest : Bool) (bs : List UInt8) : List UInt8 :=
  let lengths := List.range (bs.length + 1)
  bs.take (bs.length -
    firstLength (fun n => p.fits (bs.drop (bs.length - n)))
      (if longest then lengths.reverse else lengths))

/-- Whether characters could match more than one text. -/
def isOpen (cs : List Marked) : Bool :=
  cs.any fun (b, quoted) => !quoted && (b == byte '?' || b == byte '*' || b == byte '[')

end Pattern

end CallAtlas.Shell
