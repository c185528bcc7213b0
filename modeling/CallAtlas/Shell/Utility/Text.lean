import CallAtlas.Shell.Condition
import CallAtlas.Shell.Pattern
import CallAtlas.Shell.Utility.Options

/-!
# Utilities that work on text

These copy, count, cut and sort what they read from files or from the standard input, and write it
to the standard output.
-/

namespace CallAtlas.Shell.Utility

open CallAtlas.Text Effect

/-- A number with blanks in front. -/
def rightAligned (width n : Nat) : String :=
  let s := toString n
  String.ofList (List.replicate (width - s.length) ' ') ++ s

/-! ## Copying -/

/-- Show line ends and tabs, and number lines, as options ask. -/
def shown (o : Options) (b : List UInt8) : List UInt8 :=
  let ends := o.has 'E' || o.has 'e' || o.has 'A'
  let tabs := o.has 'T' || o.has 't' || o.has 'A'
  let whole := b.getLast? == some 10 || b.isEmpty
  let ls := (lines b).map fun l =>
    if tabs then l.flatMap fun c => if c == 9 then [94, 73] else [c] else l
  let numbered := ls.foldl (fun (done, n) l =>
    if o.has 'b' && l.isEmpty then (l :: done, n)
    else if o.has 'n' || o.has 'b' then
      ((Format.bytes (rightAligned 6 n ++ "\t") ++ l) :: done, n + 1)
    else (l :: done, n + 1)) (([] : List (List UInt8)), 1)
  let text := unlines (numbered.1.reverse.map fun l => if ends then l ++ [36] else l)
  if whole then text else text.dropLast

/-- Whether the standard output goes on in a file that is also read. -/
def feedsItself (path : String) : Effect Bool := do
  let channelOf (stream : Nat) : Effect Channel := do
    match ← leadsTo stream with
    | some n => channel n
    | none => return .nothing
  match ← channelOf 1 with
  | .file place position access =>
    let size := (← contentAt place).size
    let writing := if access == .appending then size else position
    if path == "-" then
      match ← channelOf 0 with
      | .file other reading _ => return place == other && reading < writing
      | _ => return false
    else return (← get).files.locate path |>.toOption |>.any fun other =>
      place == other && 0 < writing
  | _ => return false

/-- Copy files. -/
def cat (name : String) (args : List String) : Effect Nat :=
  withOptions name "AbeEnstTuv" 1 args fun o => do
    let plain := (o.chosen.filter (·.1 != 'u')).isEmpty
    let paths := if o.operands.isEmpty then ["-"] else o.operands
    let mut status := 0
    for path in paths do
      if ← feedsItself path then
        complain name (path ++ ": input file is output file")
        status := 1
      else
        let content ← if path == "-" then pure (.ok (← readAll 0)) else readFile path
        match content with
        | .ok b => if plain then let _ ← write 1 b else out (shown o b.toList)
        | .error e =>
          complain name (path ++ ": " ++ e.text)
          status := 1
    return status

/-- Copy the standard input to files and to the standard output. -/
def tee (name : String) (args : List String) : Effect Nat :=
  withOptions name "aip" 1 args fun o => do
    let b ← readAll 0
    let mut status := 0
    for path in o.operands do
      match ← openFile path (if o.has 'a' then .appending else .writing) with
      | .ok n => writeTo n b
      | .error e =>
        complain name (path ++ ": " ++ e.text)
        status := 1
    let _ ← write 1 b
    return status

/-! ## Counting -/

/-- The number of words. -/
def wordCount (b : List UInt8) : Nat :=
  let isBlank (c : UInt8) : Bool := c == 32 || (9 ≤ c && c ≤ 13)
  (b.foldl (fun (n, inside) c =>
    if isBlank c then (n, false) else (if inside then n else n + 1, true)) (0, false)).1

/-- Count lines, words and bytes. -/
def wc (name : String) (args : List String) : Effect Nat :=
  withOptions name "cmlwL" 1 args fun o => do
    let fromFile ← match ← leadsTo 0 with
      | some n =>
        match ← channel n with
        | .file _ _ _ => pure true
        | _ => pure false
      | none => pure false
    let (found, status) ← inputs name o.operands
    let all := o.chosen.isEmpty
    let counts (b : List UInt8) : List Nat :=
      (if all || o.has 'l' then [b.count 10] else []) ++
      (if all || o.has 'w' then [wordCount b] else []) ++
      (if o.has 'm' then [(b.filter fun c => c < 128 || 192 ≤ c).length] else []) ++
      (if all || o.has 'c' then [b.length] else []) ++
      (if o.has 'L' then [((lines b).map (·.length)).foldl max 0] else [])
    let rows := found.map fun (path, b) => (path, counts b.toList)
    let total := found.foldl (fun n (_, b) => n + b.size) 0
    let columns := (rows.head?.map (·.2.length)).getD 0
    let known := if o.operands.isEmpty then fromFile else !o.operands.contains "-"
    let width :=
      if columns ≤ 1 && rows.length ≤ 1 then 1
      else if known then (toString total).length
      else 7
    let row (path : String) (ns : List Nat) : String :=
      " ".intercalate (ns.map (rightAligned width)) ++
        (if path.isEmpty then "" else " " ++ path) ++ "\n"
    for (path, ns) in rows do
      outText (row path ns)
    if 1 < o.operands.length then
      let sums := rows.foldl
        (fun sums (_, ns) => if sums.isEmpty then ns else (sums.zip ns).map fun (a, b) => a + b) []
      outText (row "total" sums)
    return status

/-! ## Replacing characters -/

/-- The bytes of a class, in order. -/
def classBytes (name : String) : List UInt8 :=
  ((List.range 256).map (·.toUInt8)).filter (Pattern.inClass name)

/-- The bytes from one to another. -/
def byteRange (low high : UInt8) : List UInt8 :=
  (List.range (high.toNat + 1 - low.toNat)).map fun n => (low.toNat + n).toUInt8

/-- The characters of a set : escapes, ranges and classes. -/
def setBytes : Nat → List Char → List UInt8
  | 0, _ => []
  | _, [] => []
  | n + 1, '[' :: ':' :: cs =>
    let name := cs.takeWhile (· != ':')
    match cs.drop name.length with
    | ':' :: ']' :: rest => classBytes (String.ofList name) ++ setBytes n rest
    | _ => 91 :: setBytes n (':' :: cs)
  | n + 1, c :: cs =>
    let single (cs : List Char) : List UInt8 × List Char :=
      match cs with
      | '\\' :: rest =>
        let (bs, after) := Format.escape rest
        match bs, rest with
        | [92], '\\' :: _ => (bs, after)
        | [92], d :: rest => (Format.bytes d.toString, rest)
        | _, _ => (bs, after)
      | c :: rest => (Format.bytes c.toString, rest)
      | [] => ([], [])
    let (first, rest) := single (c :: cs)
    match rest with
    | '-' :: d :: after =>
      let (last, after) := single (d :: after)
      match first, last with
      | [low], [high] => byteRange low high ++ setBytes n after
      | _, _ => first ++ [45] ++ last ++ setBytes n after
    | _ => first ++ setBytes n rest

/-- Leave out repetitions of bytes of a set. -/
def squeeze (set : List UInt8) : List UInt8 → List UInt8
  | a :: b :: rest =>
    if a == b && set.contains a then squeeze set (b :: rest) else a :: squeeze set (b :: rest)
  | bs => bs

/-- Replace, delete or squeeze characters. -/
def tr (name : String) (args : List String) : Effect Nat :=
  withOptions name "cCdst" 1 args fun o => do
    let sets := o.operands.map fun s => setBytes s.length s.toList
    let complement (set : List UInt8) : List UInt8 :=
      if o.has 'c' || o.has 'C' then
        ((List.range 256).map (·.toUInt8)).filter (!set.contains ·) else set
    let needed := if o.has 'd' == o.has 's' then 2 else 1
    match sets with
    | [] => misused name "missing operand" 1
    | first :: others =>
      if others.isEmpty && needed == 2 then
        let s := o.operands.headD ""
        let reason :=
          if o.has 'd' then "Two strings must be given when both deleting and squeezing repeats."
          else "Two strings must be given when translating."
        complain name ("missing operand after '" ++ s ++ "'")
        writeText 2 (reason ++ "\nTry '" ++ name ++ " --help' for more information.\n")
        return 1
      let b := (← readAll 0).toList
      let first := complement first
      let second := others.headD []
      let replaced :=
        if o.has 'd' then b.filter (!first.contains ·)
        else if second.isEmpty then b
        else
          let last := second.getLastD 0
          let pairs := first.zip (second ++ List.replicate (first.length - second.length) last)
          let pairs := pairs.reverse
          b.map fun c => (pairs.lookup c).getD c
      let squeezed :=
        if o.has 's' then squeeze (if others.isEmpty then first else second) replaced else replaced
      out squeezed
      return 0

/-! ## Parts of texts -/

/-- The size that an argument gives, and whether it has a sign. -/
def sizeArgument (s : String) : Option (Char × Nat) :=
  let (sign, ds) := match s.toList with
    | '-' :: ds => ('-', ds)
    | '+' :: ds => ('+', ds)
    | ds => (' ', ds)
  if ds.isEmpty || !ds.all Decimal.isDigit then none else some (sign, Nat.ofDigitChars 10 ds 0)

/-- Turn an argument that is a dash and a number into a count of lines. -/
def withCount (args : List String) : List String :=
  match args with
  | a :: rest =>
    match a.toList with
    | '-' :: d :: ds =>
      if (d :: ds).all Decimal.isDigit then "-n" :: String.ofList (d :: ds) :: rest else args
    | _ => args
  | [] => []

/-- The size of the pieces that programs read. -/
def chunk : Nat := 8192

/-- Read the standard input in pieces until it has given a number of lines. -/
def readLines (count : Nat) : Effect ByteArray :=
  iterate (fun (b : ByteArray) => do
    if count ≤ b.toList.count 10 then return .inr b
    let more ← read 0 chunk
    if more.isEmpty then return .inr b else return .inl (b ++ more)) loopLimit .empty

/-- What the first lines or bytes of the standard input need. -/
def readStart (unit sign : Char) (n : Nat) : Effect ByteArray :=
  if sign == '-' then readAll 0 else if unit == 'c' then read 0 n else readLines n

/-- Take a part of each input, of lines or of bytes. -/
def partOf (name : String) (args : List String) (standard : Char → Char → Nat → Effect ByteArray)
    (ofUnits : {α : Type} → Char → Nat → List α → List α) : Effect Nat :=
  withOptions name "n:c:qvz" 1 (withCount args) fun o => do
    let (unit, size) :=
      ((o.chosen.filter fun p => p.1 == 'n' || p.1 == 'c').getLast?).getD ('n', "10")
    match sizeArgument size with
    | none =>
      complain name
        ("invalid number of " ++ (if unit == 'n' then "lines" else "bytes") ++ ": '" ++ size ++ "'")
      return 1
    | some (sign, n) =>
      let mut status := 0
      let paths := if o.operands.isEmpty then ["-"] else o.operands
      let headed := (1 < paths.length || o.has 'v') && !o.has 'q'
      let mut first := true
      for path in paths do
        let content ← if path == "-" then pure (.ok (← standard unit sign n)) else readFile path
        match content with
        | .error e =>
          complain name ("cannot open '" ++ path ++ "' for reading: " ++ e.text)
          status := 1
        | .ok b =>
          if headed then
            outText ((if first then "" else "\n") ++ "==> " ++
              (if path == "-" then "standard input" else path) ++ " <==\n")
          first := false
          if unit == 'c' then out (ofUnits sign n b.toList)
          else
            let ls := (lines b.toList).map (· ++ [10])
            let ls := if b.toList.getLast? == some 10 then ls
              else ls.dropLast ++ (ls.getLast?.map List.dropLast).toList
            out (ofUnits sign n ls).flatten
      return status

/-- The first lines or bytes. -/
def head (name : String) (args : List String) : Effect Nat :=
  partOf name args readStart fun sign n xs =>
    if sign == '-' then xs.take (xs.length - n) else xs.take n

/-- The last lines or bytes. -/
def tail (name : String) (args : List String) : Effect Nat :=
  partOf name args (fun _ _ _ => readAll 0) fun sign n xs =>
    if sign == '+' then xs.drop (n - 1) else xs.drop (xs.length - n)

/-- A list of ranges of positions. -/
def ranges (s : String) : List (Nat × Option Nat) :=
  (s.splitOn ",").filterMap fun r =>
    match r.splitOn "-" with
    | [a] => a.toNat?.map fun n => (n, some n)
    | [a, b] => some (a.toNat?.getD 1, b.toNat?)
    | _ => none

/-- The elements at positions, counted from one. -/
def picked {α : Type} (rs : List (Nat × Option Nat)) (xs : List α) : List α :=
  (xs.zipIdx.filter fun (_, i) => rs.any fun (low, high) => low ≤ i + 1 && high.all (i + 1 ≤ ·)).map
    (·.1)

/-- Split at a byte. -/
def splitAtByte (d : UInt8) (bs : List UInt8) : List (List UInt8) :=
  bs.foldr (fun c parts =>
    match parts with
    | [] => [[c]]
    | p :: ps => if c == d then [] :: p :: ps else (c :: p) :: ps) [[]]

/-- Cut characters or fields out of lines. -/
def cut (name : String) (args : List String) : Effect Nat :=
  withOptions name "b:c:d:f:nsz" 1 args fun o => do
    match (o.value? 'c').orElse fun _ => o.value? 'b', o.value? 'f' with
    | none, none => misused name "you must specify a list of bytes, characters, or fields" 1
    | some list, _ =>
      let (found, status) ← inputs name o.operands
      for (_, b) in found do
        out (unlines ((lines b.toList).map (picked (ranges list))))
      return status
    | none, some list =>
      let d := ((Format.bytes ((o.value? 'd').getD "\t")).head?).getD 9
      let (found, status) ← inputs name o.operands
      for (_, b) in found do
        let ls := (lines b.toList).filter fun l => !o.has 's' || l.contains d
        out (unlines (ls.map fun l =>
          if l.contains d then [d].intercalate (picked (ranges list) (splitAtByte d l)) else l))
      return status

/-! ## Lines -/

/-- Whether bytes come before others. -/
def comesBefore : List UInt8 → List UInt8 → Bool
  | [], _ => true
  | _ :: _, [] => false
  | a :: as, b :: bs => a < b || (a == b && comesBefore as bs)

/-- The number that a line starts with. -/
def leadingNumber (l : List UInt8) : Int :=
  let cs := (Lossy.decode (Format.ofBytes l)).toList.dropWhile fun c => c == ' ' || c == '\t'
  match cs with
  | '-' :: cs => -(Nat.ofDigitChars 10 (cs.takeWhile Decimal.isDigit) 0 : Nat)
  | cs => (Nat.ofDigitChars 10 (cs.takeWhile Decimal.isDigit) 0 : Nat)

/-- Leave out lines that are equal to the one before. -/
def distinct : List (List UInt8) → List (List UInt8)
  | a :: b :: rest => if a == b then distinct (b :: rest) else a :: distinct (b :: rest)
  | ls => ls

/-- Sort lines. -/
def sort (name : String) (args : List String) : Effect Nat :=
  withOptions name "bcdfgik:mnMo:rRsS:t:T:uz" 2 args fun o => do
    let (found, status) ← inputs name o.operands
    let ls := found.flatMap fun (_, b) => lines b.toList
    let le (a b : List UInt8) : Bool :=
      if o.has 'n' && leadingNumber a != leadingNumber b then leadingNumber a ≤ leadingNumber b
      else comesBefore a b
    let sorted := ls.mergeSort fun a b => if o.has 'r' then le b a else le a b
    let result := unlines (if o.has 'u' then distinct sorted else sorted)
    match o.value? 'o' with
    | none => out result
    | some path =>
      match ← openFile path .writing with
      | .ok n => writeTo n (Format.ofBytes result)
      | .error e =>
        complain name ("open failed: " ++ path ++ ": " ++ e.text)
        return 2
    return if status == 0 then 0 else 2

/-- Lines with the number of times that they follow each other. -/
def repeated : List (List UInt8) → List (List UInt8 × Nat)
  | [] => []
  | l :: ls =>
    match repeated ls with
    | (m, n) :: rest => if l == m then (m, n + 1) :: rest else (l, 1) :: (m, n) :: rest
    | [] => [(l, 1)]

/-- Join lines that are equal. -/
def uniq (name : String) (args : List String) : Effect Nat :=
  withOptions name "cdDf:is:uw:z" 1 args fun o => do
    let (found, status) ← inputs name (o.operands.take 1)
    let groups := repeated (found.flatMap fun (_, b) => lines b.toList)
    let groups := groups.filter fun (_, n) => (!o.has 'd' || 1 < n) && (!o.has 'u' || n == 1)
    out (unlines (groups.map fun (l, n) =>
      if o.has 'c' then Format.bytes (rightAligned 7 n ++ " ") ++ l else l))
    return status

/-- Write lines from the last to the first. -/
def tac (name : String) (args : List String) : Effect Nat :=
  withOptions name "b" 1 args fun o => do
    let (found, status) ← inputs name o.operands
    for (_, b) in found do
      out (unlines (lines b.toList).reverse)
    return status

/-- Write each line backwards. -/
def rev (name : String) (args : List String) : Effect Nat :=
  withOptions name "" 1 args fun o => do
    let (found, status) ← inputs name o.operands
    for (_, b) in found do
      out (unlines ((lines b.toList).map fun l =>
        Format.bytes (String.ofList (Lossy.decode (Format.ofBytes l)).toList.reverse)))
    return status

/-- Write arguments. -/
def echo (_name : String) (args : List String) : Effect Nat := do
  out (Format.echo args).toList
  return 0

/-- Write a format with arguments. -/
def printf (name : String) (args : List String) : Effect Nat := do
  match args with
  | [] => misused name "missing operand" 1
  | text :: args =>
    let (p, status) := Format.format text args
    out p.written
    p.complaints.forM (complain name)
    if !p.arguments.isEmpty then
      complain name
        ("warning: ignoring excess arguments, starting with '" ++ p.arguments.headD "" ++ "'")
    return min status 1

/-- Ask a condition. -/
def test (name : String) (words : List String) : Effect Nat := do
  match Condition.holds (← get).files words with
  | .ok true => return 0
  | .ok false => return 1
  | .error e => complain name e; return 2

/-- Ask a condition in brackets. -/
def bracket (name : String) (words : List String) : Effect Nat := do
  if words.getLast? == some "]" then test name words.dropLast
  else
    complain name "missing ']'"
    return 2

/-- Whether a text is a number of seconds, or of other units. -/
def isInterval (s : String) : Bool :=
  let cs := match s.toList.getLast? with
    | some c => if "smhd".toList.contains c then s.toList.dropLast else s.toList
    | none => []
  cs.any Decimal.isDigit && cs.all (fun c => Decimal.isDigit c || c == '.') &&
    (cs.filter (· == '.')).length ≤ 1

/-- Wait. -/
def sleep (name : String) (args : List String) : Effect Nat :=
  withoutOptions name args fun operands => do
    if operands.isEmpty then return ← misused name "missing operand" 1
    let wrong := operands.filter (!isInterval ·)
    wrong.forM fun s => complain name ("invalid time interval '" ++ s ++ "'")
    if wrong.isEmpty then return 0
    writeText 2 ("Try '" ++ name ++ " --help' for more information.\n")
    return 1

/-- Count from a number to another. -/
def seq (name : String) (args : List String) : Effect Nat := do
  let isOption (a : String) : Bool :=
    match a.toList with
    | '-' :: c :: _ => !Decimal.isDigit c
    | _ => false
  if let some a := args.find? isOption then
    return ← misused name
      ("invalid option -- '" ++ String.ofList ((a.toList.drop 1).take 1) ++ "'") 1
  let numbers := args.filterMap (·.toInt?)
  let (first, step, last) := match numbers with
    | [last] => (1, 1, last)
    | [first, last] => (first, 1, last)
    | [first, step, last] => (first, step, last)
    | _ => ((1 : Int), (1 : Int), (0 : Int))
  if args.isEmpty then return ← misused name "missing operand" 1
  if step == 0 then return ← misused name "invalid Zero increment value: '0'" 1
  let count := if 0 < step then (last - first) / step + 1 else (first - last) / (-step) + 1
  outText (String.join ((List.range (min count.toNat loopLimit)).map fun (n : Nat) =>
    toString (first + step * (n : Int)) ++ "\n"))
  return 0

end CallAtlas.Shell.Utility
