import CallAtlas.Files.System
import CallAtlas.Shell.Arithmetic
import CallAtlas.Shell.System

/-!
# Conditions

A condition is given by words : an operand alone holds if it is not empty, an operator with one
operand asks about a file or a text, and an operator with two compares texts or numbers. Conditions
are joined by `-a`, `-o` and `!`, and grouped by parentheses.
-/

namespace CallAtlas.Shell.Condition

/-- What is wrong with the words of a condition. -/
abbrev Complaint := String

/-- Take words of a condition. -/
abbrev Reader := StateT (List String) (Except Complaint)

/-- The operators with one operand. -/
def unaryOperators : List String :=
  ["-b", "-c", "-d", "-e", "-f", "-g", "-h", "-k", "-L", "-n", "-p", "-r", "-s", "-S", "-t", "-u",
    "-w", "-x", "-z", "-O", "-G"]

/-- The operators with two operands. -/
def binaryOperators : List String :=
  ["=", "!=", "<", ">", "-eq", "-ne", "-gt", "-ge", "-lt", "-le", "-nt", "-ot", "-ef"]

/-- Whether a word can be an operator between two operands. -/
def isBinary (s : String) : Bool :=
  binaryOperators.contains s

/-- The value of an operator that asks about a file or a text. -/
def unary (fs : FileSystem) (operator operand : String) : Bool :=
  let found := (fs.find operand).toOption
  let isProgram := (System.programAt? operand).isSome
  let isStream := (System.streams.lookup operand).isSome
  let isThere := found.isSome || System.isOther operand || isProgram || isStream
  match operator with
  | "-n" => !operand.isEmpty
  | "-z" => operand.isEmpty
  | "-e" => isThere
  | "-f" => fs.isFile operand || System.files.contains operand || isProgram
  | "-d" => fs.isDirectory operand || System.directories.contains operand
  | "-r" => isThere
  | "-w" => isThere
  | "-c" => System.devices.contains operand || operand == "/dev/stdout"
  | "-p" => operand == "/dev/stdin" || operand == "/dev/stderr"
  | "-x" =>
    match found with
    | some (.file f) => f.executable
    | some (.directory _ _) => true
    | none => isProgram || System.directories.contains operand
  | "-s" =>
    match found with
    | some (.file f) => !f.bytes.isEmpty
    | some (.directory _ _) => true
    | none => isProgram || System.directories.contains operand || System.files.contains operand
  | "-O" => isThere
  | "-G" => isThere
  | _ => false

/-- The number that a word gives, in decimal digits. -/
def number (s : String) : Except Complaint Int :=
  let isBlank (c : Char) : Bool := c == ' ' || ('\t' ≤ c && c ≤ '\r')
  let cs := ((s.toList.dropWhile isBlank).reverse.dropWhile isBlank).reverse
  let (negative, ds) := match cs with
    | '-' :: ds => (true, ds)
    | '+' :: ds => (false, ds)
    | ds => (false, ds)
  if ds.isEmpty || !ds.all Text.Decimal.isDigit then .error ("Illegal number: " ++ s)
  else
    let n : Int := Nat.ofDigitChars 10 ds 0
    .ok (if negative then -n else n)

/-- The value of an operator that compares. -/
def binary (fs : FileSystem) (a operator b : String) : Except Complaint Bool := do
  let modTime (path : String) : Option Int :=
    match (fs.find path).toOption with
    | some (.file f) => some f.modTime
    | some (.directory _ _) => some 0
    | none => none
  match operator with
  | "=" => return a == b
  | "!=" => return a != b
  | "<" => return decide (a < b)
  | ">" => return decide (b < a)
  | "-nt" => return (modTime a).any fun m => (modTime b).any fun n => n < m
  | "-ot" => return (modTime a).any fun m => (modTime b).any fun n => m < n
  | "-ef" =>
    return (fs.locate a).toOption.isSome && (fs.locate a).toOption == (fs.locate b).toOption
  | _ =>
    let m ← number a
    let n ← number b
    match operator with
    | "-eq" => return m == n
    | "-ne" => return m != n
    | "-gt" => return decide (m > n)
    | "-ge" => return decide (m ≥ n)
    | "-lt" => return decide (m < n)
    | _ => return decide (m ≤ n)

/-- Take an operator with its operands, or an operand alone. -/
def primary (fs : FileSystem) (whole : Reader Bool) : Reader Bool := do
  match ← get with
  | [] => throw "argument expected"
  | "(" :: rest =>
    match rest with
    | operator :: b :: after =>
      if isBinary operator && !isBinary b && !(b == ")" ) then
        set after
        return ← binary fs "(" operator b
    | _ => pure ()
    set rest
    let value ← whole
    match ← get with
    | ")" :: rest => set rest; return value
    | _ => throw "closing paren expected"
  | a :: operator :: rest =>
    if unaryOperators.contains a && !(isBinary operator && !rest.isEmpty) then
      set rest
      return unary fs a operator
    else if isBinary operator then
      match rest with
      | b :: rest => set rest; return ← binary fs a operator b
      | [] => throw (operator ++ ": argument expected")
    else
      set (operator :: rest)
      return !a.isEmpty
  | [a] =>
    set ([] : List String)
    return !a.isEmpty

/-- Take a condition with as many negations as stand in front. -/
def negated (fs : FileSystem) (whole : Reader Bool) : Nat → Reader Bool
  | 0 => throw "argument expected"
  | n + 1 => do
    match ← get with
    | "!" :: rest =>
      match rest with
      | [] =>
        set rest
        return true
      | operator :: _ :: _ =>
        if isBinary operator then primary fs whole
        else
          set rest
          return !(← negated fs whole n)
      | _ =>
        set rest
        return !(← negated fs whole n)
    | _ => primary fs whole

/-- Take conditions joined by an operator, from the left. -/
def joined (part : Reader Bool) (operator : String) (join : Bool → Bool → Bool) :
    Nat → Bool → Reader Bool
  | 0, a => return a
  | n + 1, a => do
    match ← get with
    | word :: rest =>
      if word == operator then
        set rest
        let b ← part
        joined part operator join n (join a b)
      else return a
    | [] => return a

/-- Take a condition, nested at most a number of times. -/
def whole (fs : FileSystem) : Nat → Reader Bool
  | 0 => throw "argument expected"
  | n + 1 => do
    let part := negated fs (whole fs n) ((← get).length + 1)
    let both : Reader Bool := do joined part "-a" (· && ·) (← get).length (← part)
    joined both "-o" (· || ·) (← get).length (← both)

/-- Whether a condition holds. With three words, an operator in the middle compares whatever stands
around it. -/
def holds (fs : FileSystem) (words : List String) : Except Complaint Bool := do
  match words with
  | [] => return false
  | [a] => return !a.isEmpty
  | [a, operator, b] => if isBinary operator then return ← binary fs a operator b
  | _ => pure ()
  let (value, rest) ← whole fs (words.length + 1) words
  if rest.isEmpty then return value
  throw ((words.getD (words.length - rest.length - 1) "") ++ ": unexpected operator")

end CallAtlas.Shell.Condition
