import CallAtlas.Shell.Regex
import CallAtlas.Shell.Utility.Options

/-!
# Utilities that search and replace

`grep` finds lines that match a regular expression, `sed` edits lines, and `expr` evaluates an
expression that is given by words.
-/

namespace CallAtlas.Shell.Utility

open CallAtlas.Text Effect

/-! ## Finding lines -/

/-- All matches in a line. -/
def allMatches (r : Regex) : Nat → Bool → List UInt8 → List Regex.Found
  | 0, _, _ => []
  | n + 1, atStart, bs =>
    match r.find? atStart bs with
    | none => []
    | some f =>
      if f.text.isEmpty then
        match f.after with
        | [] => [f]
        | _ :: rest => f :: allMatches r n false rest
      else f :: allMatches r n false f.after

/-- Whether a byte belongs to a word. -/
def isWordByte (b : UInt8) : Bool :=
  Pattern.inClass "alnum" b || b == 95

/-- Whether a match is a whole line or a whole word, if that is asked for. -/
def accepted (o : Options) (f : Regex.Found) : Bool :=
  (!o.has 'x' || (f.before.isEmpty && f.after.isEmpty)) &&
    (!o.has 'w' || (!(f.before.getLast?.any isWordByte) && !(f.after.head?.any isWordByte)))

/-- How to find lines, in short. -/
def grepUsage (name : String) : String :=
  "Usage: " ++ name ++ " [OPTION]... PATTERNS [FILE]...\nTry '" ++ name ++
    " --help' for more information.\n"

/-- Find lines. -/
def grep (name : String) (args : List String) : Effect Nat := do
  match Options.parse "EFGPe:f:hHiIlLm:noqrsTUvwxcyzZ".toList (args.length + 1) args with
  | .error e =>
    complain name e
    writeText 2 (grepUsage name)
    return 2
  | .ok o =>
    let given := o.chosen.filterMap fun (c, v) => if c == 'e' then some v else none
    let (patterns, paths) :=
      if given.isEmpty then (o.operands.take 1, o.operands.drop 1) else (given, o.operands)
    if patterns.isEmpty then
      writeText 2 (grepUsage name)
      return 2
    let texts := patterns.flatMap (·.splitOn "\n")
    let regexes := texts.filterMap fun t =>
      if o.has 'F' then some (Regex.ofLiteral (o.has 'i') t.toUTF8.toList)
      else Regex.ofText? (o.has 'E') (o.has 'i') t.toUTF8.toList
    let (found, status) ← inputs name paths
    let mut any := false
    for (path, b) in found do
      let label := if (1 < paths.length || o.has 'H') && !o.has 'h' then path ++ ":" else ""
      let ls := lines b.toList
      let hit (l : List UInt8) : Bool :=
        (regexes.any fun r => (allMatches r (l.length + 1) true l).any (accepted o)) != o.has 'v'
      let hits := ls.zipIdx.filter fun (l, _) => hit l
      let hits := match (o.value? 'm').bind (·.toNat?) with
        | some n => hits.take n
        | none => hits
      if !hits.isEmpty then any := true
      if o.has 'q' then pure ()
      else if o.has 'l' then outText (if hits.isEmpty then "" else path ++ "\n")
      else if o.has 'c' then outText (label ++ toString hits.length ++ "\n")
      else
        for (l, i) in hits do
          let label := label ++ if o.has 'n' then toString (i + 1) ++ ":" else ""
          if o.has 'o' then
            for r in regexes do
              for f in allMatches r (l.length + 1) true l do
                if !f.text.isEmpty then out (Format.bytes label ++ f.text ++ [10])
          else out (Format.bytes label ++ l ++ [10])
    return if status != 0 && !(any && o.has 'q') then 2 else if any then 0 else 1

/-! ## Editing lines -/

/-- Which lines an edit applies to. -/
inductive Address where
  | line (n : Nat)
  | last
  | pattern (r : Regex)

/-- A part of a replacement. -/
inductive Replacement where
  | text (b : UInt8)
  | group (n : Nat)
  deriving DecidableEq, Repr

/-- What is done with a line. -/
inductive Edit where
  | replace (r : Regex) (by_ : List Replacement) (all : Bool) (nth : Nat) (prints : Bool)
  | exchange (pairs : List (UInt8 × UInt8))
  | delete
  | print
  | quit
  | number
  | append (text : List UInt8)
  | insert (text : List UInt8)
  | change (text : List UInt8)

/-- An edit with its addresses. -/
structure Instruction where
  first : Option Address := none
  last : Option Address := none
  negated : Bool := false
  edit : Edit

/-- Read text up to a delimiter that no backslash keeps. A kept delimiter loses its backslash. -/
def upTo (d : Char) : List Char → Option (List Char × List Char)
  | [] => none
  | '\\' :: c :: cs =>
    (upTo d cs).map fun (t, rest) => (if c == d then c :: t else '\\' :: c :: t, rest)
  | c :: cs => if c == d then some ([], cs) else (upTo d cs).map fun (t, rest) => (c :: t, rest)

/-- The bytes of characters. -/
def bytesOf (cs : List Char) : List UInt8 :=
  (String.ofList cs).toUTF8.toList

/-- Read a replacement. -/
def replacement : List Char → List Replacement
  | [] => []
  | '\\' :: c :: cs =>
    (if Decimal.isDigit c then [.group (Decimal.digit c)]
    else if c == 'n' then [.text 10]
    else if c == 't' then [.text 9]
    else (bytesOf [c]).map .text) ++ replacement cs
  | '&' :: cs => .group 0 :: replacement cs
  | c :: cs => (bytesOf [c]).map .text ++ replacement cs

/-- Read an address. -/
def address (extended : Bool) (cs : List Char) : Option (Option Address × List Char) :=
  match cs with
  | '$' :: rest => some (some .last, rest)
  | '/' :: rest => do
    let (t, rest) ← upTo '/' rest
    return (some (.pattern (← Regex.ofText? extended false (bytesOf t))), rest)
  | c :: _ =>
    if Decimal.isDigit c then
      let ds := cs.takeWhile Decimal.isDigit
      some (some (.line (Nat.ofDigitChars 10 ds 0)), cs.drop ds.length)
    else some (none, cs)
  | [] => some (none, [])

/-- Read the edit of an instruction. -/
def edit (extended : Bool) (cs : List Char) : Option (Edit × List Char) :=
  let oneLine (cs : List Char) : List UInt8 × List Char :=
    let text := (match cs with
      | '\\' :: '\n' :: rest => rest
      | cs => cs.dropWhile (· == ' '))
    (bytesOf (text.takeWhile (· != '\n')) ++ [10], text.dropWhile (· != '\n'))
  match cs with
  | 's' :: d :: rest => do
    let (t, rest) ← upTo d rest
    let (r, rest) ← upTo d rest
    let flags := rest.takeWhile fun c => "gpiI".toList.contains c || Decimal.isDigit c
    let regex ← Regex.ofText? extended (flags.contains 'i' || flags.contains 'I') (bytesOf t)
    let nth := Nat.ofDigitChars 10 (flags.filter Decimal.isDigit) 0
    return (.replace regex (replacement r) (flags.contains 'g') (max 1 nth) (flags.contains 'p'),
      rest.drop flags.length)
  | 'y' :: d :: rest => do
    let (a, rest) ← upTo d rest
    let (b, rest) ← upTo d rest
    return (.exchange ((bytesOf a).zip (bytesOf b)), rest)
  | 'd' :: rest => some (.delete, rest)
  | 'p' :: rest => some (.print, rest)
  | 'q' :: rest => some (.quit, rest)
  | '=' :: rest => some (.number, rest)
  | 'a' :: rest => some (.append (oneLine rest).1, (oneLine rest).2)
  | 'i' :: rest => some (.insert (oneLine rest).1, (oneLine rest).2)
  | 'c' :: rest => some (.change (oneLine rest).1, (oneLine rest).2)
  | _ => none

/-- Read instructions, at most a number of them. -/
def instructions (extended : Bool) : Nat → List Char → Option (List Instruction)
  | 0, _ => none
  | n + 1, cs => do
    let cs := cs.dropWhile fun c => c == ' ' || c == '\n' || c == ';' || c == '\t'
    if cs.isEmpty then return []
    let (first, cs) ← address extended cs
    let (last, cs) ← match cs with
      | ',' :: rest => address extended rest
      | cs => some (none, cs)
    let cs := cs.dropWhile (· == ' ')
    let (negated, cs) := match cs with
      | '!' :: rest => (true, rest)
      | cs => (false, cs)
    let (e, cs) ← edit extended (cs.dropWhile (· == ' '))
    return { first, last, negated, edit := e } :: (← instructions extended n cs)

/-- Whether a line is at an address. -/
def Address.holds (number : Nat) (isLast : Bool) (line : List UInt8) : Address → Bool
  | .line n => n == number
  | .last => isLast
  | .pattern r => (r.find? true line).isSome

/-- Whether an instruction applies to a line, and whether its range goes on. -/
def Instruction.applies (i : Instruction) (inside : Bool) (number : Nat) (isLast : Bool)
    (line : List UInt8) : Bool × Bool :=
  match i.first, i.last with
  | none, _ => (true, false)
  | some a, none => (a.holds number isLast line, false)
  | some a, some b =>
    if inside then
      match b with
      | .line n => (true, number < n)
      | b => (true, !b.holds number isLast line)
    else if a.holds number isLast line then
      match b with
      | .line n => (true, number < n)
      | _ => (true, !isLast)
    else (false, false)

/-- Fill in a replacement. -/
def fill (f : Regex.Found) (r : List Replacement) : List UInt8 :=
  r.flatMap fun p =>
    match p with
    | .text b => [b]
    | .group 0 => f.text
    | .group n => (f.groups.lookup n).getD []

/-- Replace matches in a line, from the one with a number on. -/
def substitute (r : Regex) (by_ : List Replacement) (all : Bool) :
    Nat → Nat → Bool → List UInt8 → List UInt8 × Bool
  | 0, _, _, bs => (bs, false)
  | n + 1, nth, atStart, bs =>
    match r.find? atStart bs with
    | none => (bs, false)
    | some f =>
      let here := nth ≤ 1
      let new := if here then fill f by_ else f.text
      if here && !all then (f.before ++ new ++ f.after, true)
      else
        match f.text, f.after with
        | [], [] => (f.before ++ new, here)
        | [], b :: rest =>
          let (more, changed) := substitute r by_ all n (nth - 1) false rest
          (f.before ++ new ++ b :: more, here || changed)
        | _, after =>
          let (more, changed) := substitute r by_ all n (nth - 1) false after
          (f.before ++ new ++ more, here || changed)

/-- What becomes of a line. -/
structure Edited where
  line : List UInt8
  before : List UInt8 := []
  after : List UInt8 := []
  deleted : Bool := false
  quits : Bool := false

/-- Edit a line by one instruction. -/
def Edited.by (number : Nat) (e : Edited) : Edit → Edited
  | .replace r new all nth prints =>
    let (line, changed) := substitute r new all (e.line.length + 2) nth true e.line
    { e with line, before := if changed && prints then e.before ++ line ++ [10] else e.before }
  | .exchange pairs => { e with line := e.line.map fun b => (pairs.lookup b).getD b }
  | .delete => { e with deleted := true }
  | .print => { e with before := e.before ++ e.line ++ [10] }
  | .quit => { e with quits := true }
  | .number => { e with before := e.before ++ Format.bytes (toString number) ++ [10] }
  | .append text => { e with after := e.after ++ text }
  | .insert text => { e with before := e.before ++ text }
  | .change text => { e with before := e.before ++ text, deleted := true }

/-- Edit a line by instructions. The flags say which ranges it is inside of. -/
def editLine (number : Nat) (isLast : Bool) :
    List (Instruction × Bool) → Edited → Edited × List (Instruction × Bool)
  | [], e => (e, [])
  | (i, inside) :: rest, e =>
    let (applies, goesOn) := i.applies inside number isLast e.line
    let e' := if applies != i.negated then e.by number i.edit else e
    if e'.deleted || e'.quits then (e', (i, goesOn) :: rest)
    else
      let (e'', rest) := editLine number isLast rest e'
      (e'', (i, goesOn) :: rest)

/-- Edit lines. -/
def editLines (silent ended : Bool) :
    Nat → List (Instruction × Bool) → List (List UInt8) → List UInt8
  | _, _, [] => []
  | number, is, l :: ls =>
    let (e, is) := editLine number ls.isEmpty is { line := l }
    let shown := if e.deleted || silent then [] else e.line ++ [10]
    let text := e.before ++ shown ++ e.after
    if e.quits then text
    else if ls.isEmpty && !ended && e.after.isEmpty then
      (if text.getLast? == some 10 then text.dropLast else text)
    else text ++ editLines silent ended (number + 1) is ls

/-- Edit the lines of files or of the standard input. -/
def sed (name : String) (args : List String) : Effect Nat :=
  withOptions name "nEre:f:isuz" 1 args fun o => do
    let given := o.chosen.filterMap fun (c, v) => if c == 'e' then some v else none
    let (script, paths) := if given.isEmpty then (o.operands.headD "", o.operands.drop 1)
      else ("\n".intercalate given, o.operands)
    if given.isEmpty && o.operands.isEmpty then
      writeText 2 ("Usage: " ++ name ++
        " [OPTION]... \x7bscript-only-if-no-other-script\x7d [input-file]...\n")
      return 1
    match instructions (o.has 'E' || o.has 'r') (script.length + 2) script.toList with
    | none =>
      complain name
        ("-e expression #1, char " ++ toString script.utf8ByteSize ++ ": unknown command: ‘" ++
        String.ofList (script.toList.take 1) ++ "’")
      return 1
    | some is =>
      let (found, status) ← inputs name paths
      let b := found.flatMap fun (_, b) => b.toList
      out
        (editLines (o.has 'n') (b.getLast? == some 10 || b.isEmpty) 1 (is.map (·, false)) (lines b))
      return if status == 0 then 0 else 2

/-! ## Expressions in words -/

/-- The value of words, and the words that are left. -/
abbrev ExprReader := StateT (List String) (Except String)

/-- Whether a value counts as nothing. -/
def isNull (s : String) : Bool :=
  s.isEmpty || (s.toInt? == some 0)

/-- The number of a word. -/
def integer (s : String) : Except String Int :=
  match s.toInt? with
  | some n => .ok n
  | none => .error "non-integer argument"

/-- The value of an operator. -/
def exprApply (operator a b : String) : Except String String :=
  let truth (p : Bool) : String := if p then "1" else "0"
  let order (number : Int → Int → Bool) (text : String → String → Bool) : String :=
    match a.toInt?, b.toInt? with
    | some m, some n => truth (number m n)
    | _, _ => truth (text a b)
  match operator with
  | "|" => .ok (if isNull a then (if isNull b then "0" else b) else a)
  | "&" => .ok (if isNull a || isNull b then "0" else a)
  | "=" => .ok (order (· == ·) (· == ·))
  | "==" => .ok (order (· == ·) (· == ·))
  | "!=" => .ok (order (· != ·) (· != ·))
  | "<" => .ok (order (· < ·) (· < ·))
  | "<=" => .ok (order (· ≤ ·) (· ≤ ·))
  | ">" => .ok (order (· > ·) (· > ·))
  | ">=" => .ok (order (· ≥ ·) (· ≥ ·))
  | ":" =>
    match Regex.ofText? false false b.toUTF8.toList with
    | none => .error "syntax error"
    | some r =>
      let text := a.toUTF8.toList
      match r.longest { atStart := true, rest := text } with
      | none => .ok (if (b.splitOn "\\(").length == 1 then "0" else "")
      | some c =>
        match c.groups.lookup 1 with
        | some g => .ok (Lossy.decode (Format.ofBytes g))
        | none => .ok (toString (text.length - c.rest.length))
  | _ => do
    let m ← integer a
    let n ← integer b
    match operator with
    | "+" => return toString (m + n)
    | "-" => return toString (m - n)
    | "*" => return toString (m * n)
    | "/" => if n == 0 then throw "division by zero" else return toString (Int.tdiv m n)
    | _ => if n == 0 then throw "division by zero" else return toString (Int.tmod m n)

/-- Take operands with operators between them. -/
def exprChain (operand : ExprReader String) (ops : List String) : Nat → String → ExprReader String
  | 0, a => return a
  | n + 1, a => do
    match ← get with
    | word :: rest =>
      if ops.contains word then
        if rest.isEmpty then throw ("syntax error: missing argument after '" ++ word ++ "'")
        set rest
        let b ← operand
        exprChain operand ops n (← exprApply word a b)
      else return a
    | [] => return a

/-- The operators by rank. -/
def exprOperators : List (List String) :=
  [["|"], ["&"], ["=", "==", "!=", "<", "<=", ">", ">="], ["+", "-"], ["*", "/", "%"], [":"]]

/-- Take an expression of the ranks that are left. -/
def exprRanked (primary : ExprReader String) : List (List String) → ExprReader String
  | [] => primary
  | ops :: ranks => do
    let first ← exprRanked primary ranks
    exprChain (exprRanked primary ranks) ops (← get).length first

/-- Take an expression, nested at most a number of times. -/
def exprWhole : Nat → ExprReader String
  | 0 => throw "syntax error"
  | n + 1 =>
    exprRanked (do
      match ← get with
      | [] => throw "syntax error"
      | "(" :: rest =>
        set rest
        let v ← exprWhole n
        match ← get with
        | ")" :: rest => set rest; return v
        | _ => throw "syntax error: expecting ')'"
      | "length" :: s :: rest => set rest; return toString s.length
      | "substr" :: s :: from_ :: count :: rest =>
        set rest
        return String.ofList
          ((s.toList.drop ((← integer from_).toNat - 1)).take (← integer count).toNat)
      | "index" :: s :: set_ :: rest =>
        set rest
        return toString (((s.toList.findIdx? (set_.toList.contains ·)).map (· + 1)).getD 0)
      | word :: rest => set rest; return word) exprOperators

/-- Evaluate an expression. -/
def expr (name : String) (args : List String) : Effect Nat := do
  let args := if args.head? == some "--" then args.tail else args
  if args.isEmpty then return ← misused name "missing operand" 2
  match exprWhole (args.length + 1) args with
  | .error e => complain name e; return 2
  | .ok (_, word :: _) =>
    complain name ("syntax error: unexpected argument '" ++ word ++ "'"); return 2
  | .ok (v, []) =>
    outText (v ++ "\n")
    return if isNull v then 1 else 0

end CallAtlas.Shell.Utility
