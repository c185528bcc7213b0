import CallAtlas.Shell.Pattern
import CallAtlas.Text.Decimal

/-!
# Regular expressions

A regular expression is matched byte by byte. All ways to match are tried, and the longest match at
the leftmost place is taken. In the basic form a backslash gives parentheses, braces and bars their
meaning; in the extended form it takes it away.
-/

namespace CallAtlas.Shell

open CallAtlas.Text

/-- A regular expression. -/
inductive Regex where
  | empty
  | any
  | oneOf (negated : Bool) (members : List Member)
  | sequence (a b : Regex)
  | either (a b : Regex)
  | repetition (a : Regex) (least : Nat) (most : Option Nat)
  | group (n : Nat) (a : Regex)
  | reference (n : Nat)
  | start
  | finish

namespace Regex

/-! ## Matching -/

/-- A place in a text, with what groups have matched so far. -/
structure Cursor where
  atStart : Bool
  rest : List UInt8
  groups : List (Nat × List UInt8) := []

/-- Take a byte that passes a test. -/
def Cursor.take (p : UInt8 → Bool) (c : Cursor) : List Cursor :=
  match c.rest with
  | b :: bs => if p b then [{ c with atStart := false, rest := bs }] else []
  | [] => []

/-- Match again and again, as often as possible first. A round that takes nothing is the last. -/
def rounds (once : Cursor → List Cursor) : Nat → Nat → Option Nat → Cursor → List Cursor
  | 0, least, _, c => if least == 0 then [c] else []
  | n + 1, least, most, c =>
    let more :=
      if most == some 0 then []
      else (once c).flatMap fun d =>
        if d.rest.length == c.rest.length then [d]
        else rounds once n (least - 1) (most.map (· - 1)) d
    more ++ if least == 0 then [c] else []

/-- All ways to match at a place. -/
def ways : Regex → Cursor → List Cursor
  | .empty, c => [c]
  | .any, c => c.take fun _ => true
  | .oneOf negated ms, c => c.take fun b => ms.any (Pattern.Member.holds b) != negated
  | .sequence a b, c => (ways a c).flatMap (ways b)
  | .either a b, c => ways a c ++ ways b c
  | .repetition a least most, c => rounds (ways a) (c.rest.length + least + 1) least most c
  | .group n a, c =>
    (ways a c).map fun d => { d with
      groups := (n, c.rest.take (c.rest.length - d.rest.length)) :: d.groups.filter (·.1 != n) }
  | .reference n, c =>
    let text := (c.groups.lookup n).getD []
    if text.isPrefixOf c.rest then
      [{ c with atStart := c.atStart && text.isEmpty, rest := c.rest.drop text.length }]
    else []
  | .start, c => if c.atStart then [c] else []
  | .finish, c => if c.rest.isEmpty then [c] else []

/-- A match : what stands before it, the match itself, its groups, and what comes after. -/
structure Found where
  before : List UInt8
  text : List UInt8
  groups : List (Nat × List UInt8)
  after : List UInt8

/-- The longest match at a place. -/
def longest (r : Regex) (c : Cursor) : Option Cursor :=
  (r.ways c).foldl (fun best d =>
    match best with
    | none => some d
    | some b => if d.rest.length < b.rest.length then some d else best) none

/-- The match at the start of a text. -/
def matchHere? (r : Regex) (atStart : Bool) (bs : List UInt8) : Option Found :=
  (r.longest { atStart, rest := bs }).map fun d =>
    ⟨[], bs.take (bs.length - d.rest.length), d.groups, d.rest⟩

/-- The first match in a text. -/
def find? (r : Regex) : Bool → List UInt8 → Option Found
  | atStart, [] => r.matchHere? atStart []
  | atStart, b :: bs =>
    match r.matchHere? atStart (b :: bs) with
    | some f => some f
    | none => (find? r false bs).map fun f => { f with before := b :: f.before }

/-! ## Reading -/

/-- The text of an expression, and the number of groups so far. -/
abbrev Reader := StateT (List UInt8 × Nat) Option

/-- A byte as a character. -/
def char (b : UInt8) : Char :=
  Char.ofNat b.toNat

/-- The next two characters, and the token that they make : a character with a meaning, or
one without. -/
def token (extended : Bool) : List UInt8 → Option ((Char × Bool) × List UInt8)
  | [] => none
  | 92 :: b :: rest =>
    let c := char b
    if c == 'n' then some (('\n', false), rest)
    else if c == 't' then some (('\t', false), rest)
    else if Decimal.isDigit c then some ((c, true), rest)
    else some ((c, !extended && "()\x7b\x7d|+?".toList.contains c), rest)
  | b :: rest =>
    let c := char b
    some ((c, ".[*^$".toList.contains c || (extended && "()\x7b\x7d|+?".toList.contains c)), rest)

/-- The members of a set whose case does not matter. -/
def bothCases (ignoreCase : Bool) (ms : List Member) : List Member :=
  if !ignoreCase then ms
  else ms ++ ms.flatMap fun m =>
    match m with
    | .range low high =>
      let l := char low
      let h := char high
      if l.isLower && h.isLower then [.range (low - 32) (high - 32)]
      else if l.isUpper && h.isUpper then [.range (low + 32) (high + 32)]
      else []
    | .named _ => []

/-- A byte that stands for itself. -/
def literal (ignoreCase : Bool) (b : UInt8) : Regex :=
  .oneOf false (bothCases ignoreCase [.range b b])

/-- Read the bounds of a repetition in braces. -/
def bounds (extended : Bool) (bs : List UInt8) : Option ((Nat × Option Nat) × List UInt8) :=
  let ds := bs.takeWhile fun b => Decimal.isDigit (char b)
  let least := Nat.ofDigitChars 10 (ds.map char) 0
  let close (most : Option Nat) (rest : List UInt8) : Option ((Nat × Option Nat) × List UInt8) :=
    match token extended rest with
    | some (('\x7d', true), rest) => some ((least, most), rest)
    | _ => none
  match bs.drop ds.length with
  | 44 :: rest =>
    let ms := rest.takeWhile fun b => Decimal.isDigit (char b)
    close (if ms.isEmpty then none else some (Nat.ofDigitChars 10 (ms.map char) 0))
      (rest.drop ms.length)
  | rest => if ds.isEmpty then none else close (some least) rest

/-- Read the repetitions after an expression. -/
def suffixes (extended : Bool) : Nat → Regex → Reader Regex
  | 0, r => return r
  | n + 1, r => do
    let (bs, groups) ← get
    match token extended bs with
    | some (('*', true), rest) => set (rest, groups); suffixes extended n (.repetition r 0 none)
    | some (('+', true), rest) => set (rest, groups); suffixes extended n (.repetition r 1 none)
    | some (('?', true), rest) => set (rest, groups); suffixes extended n (.repetition r 0 (some 1))
    | some (('\x7b', true), rest) =>
      match bounds extended rest with
      | some ((least, most), rest) =>
        set (rest, groups); suffixes extended n (.repetition r least most)
      | none => failure
    | _ => return r

/-- Read an expression up to a closing parenthesis or the end, nested at most a number of times. -/
def expression (extended ignoreCase : Bool) : Nat → Bool → Reader Regex
  | 0, _ => failure
  | n + 1, first => do
    let (bs, groups) ← get
    match token extended bs with
    | none => return .empty
    | some ((c, meaning), rest) =>
      let go (r : Regex) : Reader Regex := do
        let r ← suffixes extended bs.length r
        return .sequence r (← expression extended ignoreCase n false)
      let plain : Reader Regex := do
        set (rest, groups)
        go (literal ignoreCase (c.toNat.toUInt8))
      if !meaning then plain
      else
        match c with
        | ')' => return .empty
        | '|' =>
          set (rest, groups)
          return .either .empty (← expression extended ignoreCase n true)
        | '(' =>
          set (rest, groups + 1)
          let inner ← expression extended ignoreCase n true
          let (bs, last) ← get
          match token extended bs with
          | some ((')', true), rest) => set (rest, last); go (.group (groups + 1) inner)
          | _ => failure
        | '.' => set (rest, groups); go .any
        | '[' =>
          let (negated, inner) := match rest with
            | 94 :: rest => (true, rest)
            | rest => (false, rest)
          match Pattern.members (inner.length + 1) true (inner.map (·, false)) with
          | some (ms, rest) =>
            set (rest.map (·.1), groups)
            go (.oneOf negated (bothCases ignoreCase ms))
          | none => failure
        | '^' =>
          if extended || first then
            set (rest, groups)
            return .sequence .start (← expression extended ignoreCase n extended)
          else plain
        | '$' =>
          let atEnd := match token extended rest with
            | none => true
            | some ((d, true), _) => d == ')' || d == '|'
            | some _ => false
          if extended || atEnd then
            set (rest, groups)
            return .sequence .finish (← expression extended ignoreCase n false)
          else plain
        | '*' => if first then plain else failure
        | c =>
          if Decimal.isDigit c then
            set (rest, groups)
            go (.reference (Decimal.digit c))
          else plain

/-- Move the bars of sequences to the outside : all that stands before a bar is one alternative. -/
def normal : Regex → Regex
  | .sequence a b =>
    match normal b with
    | .either c d => .either (.sequence (normal a) c) d
    | b => .sequence (normal a) b
  | .either a b => .either (normal a) (normal b)
  | .repetition a least most => .repetition (normal a) least most
  | .group n a => .group n (normal a)
  | r => r

/-- The expression that a text gives. -/
def ofText? (extended ignoreCase : Bool) (bs : List UInt8) : Option Regex :=
  match expression extended ignoreCase (bs.length + 2) true (bs, 0) with
  | some (r, ([], _)) => some (normal r)
  | _ => none

/-- The expression for a text that stands for itself. -/
def ofLiteral (ignoreCase : Bool) (bs : List UInt8) : Regex :=
  bs.foldr (fun b r => .sequence (literal ignoreCase b) r) .empty

end Regex

end CallAtlas.Shell
