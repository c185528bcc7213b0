import CallAtlas.Shell.Syntax
import CallAtlas.Text.Decimal

/-!
# Arithmetic in scripts

An arithmetic expression is evaluated in integers of 64 bits that wrap around. Variables are looked
up in, and assigned to, an environment of texts. `Arithmetic.evaluate` reads an expression, then
gives its value.
-/

namespace CallAtlas.Shell

/-- An arithmetic expression. -/
inductive Arithmetic where
  | constant (n : Int64)
  | named (name : String)
  | unary (operator : String) (a : Arithmetic)
  | binary (operator : String) (a b : Arithmetic)
  | conditional (test yes no : Arithmetic)
  | assign (name : String) (operator : String) (a : Arithmetic)

namespace Arithmetic

open CallAtlas.Text

/-- What is wrong with an expression. -/
inductive Fault where
  | malformed (reason : String)
  | illegalNumber (text : String)
  deriving DecidableEq, Repr

/-- The wording of a fault. -/
def Fault.message (expression : String) : Fault → String
  | .malformed reason => "arithmetic expression: " ++ reason ++ ": \"" ++ expression ++ "\""
  | .illegalNumber text => "Illegal number: " ++ text

/-! ## Numbers -/

/-- The digits of a number with a base, and what comes after them. -/
def digitsIn (base : Nat) (cs : List Char) : List Char × List Char :=
  let isDigit (c : Char) : Bool :=
    if base == 16 then Decimal.isDigit c || ('a' ≤ c && c ≤ 'f') || ('A' ≤ c && c ≤ 'F')
    else Decimal.isDigit c && Decimal.digit c < base
  (cs.takeWhile isDigit, cs.dropWhile isDigit)

/-- The value of a digit. -/
def digitValue (c : Char) : Nat :=
  if Decimal.isDigit c then Decimal.digit c else 10 + (c.toLower.toNat - 'a'.toNat)

/-- Read a number in front of a text : hexadecimal, octal or decimal. -/
def number (cs : List Char) : Option (Nat × List Char) :=
  let value (base : Nat) (ds rest : List Char) : Option (Nat × List Char) :=
    if ds.isEmpty then none else some (ds.foldl (fun n c => base * n + digitValue c) 0, rest)
  match cs with
  | '0' :: x :: rest =>
    if x == 'x' || x == 'X' then
      let (ds, after) := digitsIn 16 rest
      if ds.isEmpty then some (0, x :: rest) else value 16 ds after
    else
      let (ds, after) := digitsIn 8 cs
      value 8 ds after
  | cs =>
    let (ds, after) := digitsIn 10 cs
    value 10 ds after

/-- The greatest number of 64 bits with a sign. -/
def greatest : Nat := 9223372036854775807

/-- The number that a text starts with, blanks and a sign in front allowed, and what comes
after it. -/
def signedNumber (s : String) : Option (Int × List Char) :=
  let cs := s.toList.dropWhile fun c => c == ' ' || ('\t' ≤ c && c ≤ '\r')
  match cs with
  | '-' :: cs => (number cs).map fun (n, rest) => (-(min n (greatest + 1) : Nat), rest)
  | '+' :: cs => (number cs).map fun (n, rest) => ((min n greatest : Nat), rest)
  | cs => (number cs).map fun (n, rest) => ((min n greatest : Nat), rest)

/-- The number that a whole text gives, blanks around it allowed. -/
def wholeNumber (s : String) : Except Fault Int64 :=
  match signedNumber s with
  | some (n, rest) =>
    if rest.all fun c => c == ' ' || ('\t' ≤ c && c ≤ '\r') then .ok (Int64.ofInt n)
    else .error (.illegalNumber s)
  | none => .error (.illegalNumber s)

/-! ## Reading -/

/-- Take a part of an expression. -/
abbrev Reader := StateT (List Char) (Except Fault)

/-- The operators with two operands, by rank. A longer operator stands before one that starts it. -/
def operators : List (List String) :=
  [["||"], ["&&"], ["|"], ["^"], ["&"], ["==", "!="], ["<=", ">=", "<", ">"], ["<<", ">>"],
    ["+", "-"], ["*", "/", "%"]]

/-- All operators, the longest first. -/
def symbols : List String :=
  ["<<=", ">>=", "+=", "-=", "*=", "/=", "%=", "&=", "^=", "|=", "<<", ">>", "<=", ">=", "==", "!=",
    "&&", "||", "+", "-", "*", "/", "%", "&", "^", "|", "<", ">", "!", "~", "=", "?", ":", "(", ")"]

/-- Skip blanks. -/
def blanks : Reader Unit :=
  modify (·.dropWhile fun c => c == ' ' || c == '\t' || c == '\n')

/-- The operator that comes next. -/
def symbol? : Reader (Option String) := do
  blanks
  let cs ← get
  return symbols.find? fun s => s.toList.isPrefixOf cs

/-- Take an operator. -/
def drop (s : String) : Reader Unit :=
  modify (·.drop s.length)

/-- Take operands with operators between them, from the left. -/
def chain (operand : Reader Arithmetic) (ops : List String) : Nat → Arithmetic → Reader Arithmetic
  | 0, a => return a
  | n + 1, a => do
    match ← symbol? with
    | some s =>
      if ops.contains s then
        drop s
        chain operand ops n (.binary s a (← operand))
      else return a
    | none => return a

/-- Take an expression of the ranks that are left. -/
def ranked (primary : Reader Arithmetic) : List (List String) → Reader Arithmetic
  | [] => primary
  | ops :: ranks => do
    let first ← ranked primary ranks
    chain (ranked primary ranks) ops (← get).length first

/-- The operators that assign. -/
def assigning : List String :=
  ["=", "<<=", ">>=", "+=", "-=", "*=", "/=", "%=", "&=", "^=", "|="]

/-- Take an operand. `whole` takes an expression. -/
def primary (whole : Reader Arithmetic) : Nat → Reader Arithmetic
  | 0 => throw (.malformed "expecting primary")
  | n + 1 => do
    match ← symbol? with
    | some "(" =>
      drop "("
      let a ← whole
      match ← symbol? with
      | some ")" => drop ")"; return a
      | _ => throw (.malformed "expecting ')'")
    | some s =>
      if ["+", "-", "!", "~"].contains s then
        drop s
        return .unary s (← primary whole n)
      else throw (.malformed "expecting primary")
    | none =>
      let cs ← get
      match number cs with
      | some (n, rest) =>
        set rest
        return .constant (Int64.ofNat (min n greatest))
      | none =>
        let name := cs.takeWhile isNameCharacter
        if name.isEmpty then throw (.malformed "expecting primary")
        set (cs.drop name.length)
        return .named (String.ofList name)

/-- Take an expression, nested at most a number of times. -/
def expression : Nat → Reader Arithmetic
  | 0 => throw (.malformed "expecting primary")
  | n + 1 => do
    blanks
    let before ← get
    let name := before.takeWhile isNameCharacter
    let target := String.ofList name
    set (before.drop name.length)
    match ← symbol? with
    | some s =>
      if isName target && assigning.contains s then
        drop s
        return .assign target (String.ofList s.toList.dropLast) (← expression n)
    | none => pure ()
    set before
    let test ← ranked (primary (expression n) (before.length + 1)) operators
    match ← symbol? with
    | some "?" =>
      drop "?"
      let yes ← expression n
      match ← symbol? with
      | some ":" => drop ":"
      | _ => throw (.malformed "expecting ':'")
      return .conditional test yes (← expression n)
    | _ => return test

/-- Read a whole expression. -/
def parse (s : String) : Except Fault Arithmetic :=
  match expression (s.length + 1) s.toList with
  | .error e => .error e
  | .ok (a, rest) =>
    if rest.all fun c => c == ' ' || c == '\t' || c == '\n' then .ok a
    else .error (.malformed "expecting EOF")

/-! ## Values -/

/-- The variables that were assigned, in front of those that were given. -/
abbrev Environment := List (String × String)

/-- One for true and zero for false. -/
def truth (b : Bool) : Int64 :=
  if b then 1 else 0

/-- The value of an operator with two operands that are both evaluated. -/
def apply (operator : String) (a b : Int64) : Except Fault Int64 :=
  match operator with
  | "+" => .ok (a + b)
  | "-" => .ok (a - b)
  | "*" => .ok (a * b)
  | "/" => if b == 0 then .error (.malformed "division by zero") else .ok (a / b)
  | "%" => if b == 0 then .error (.malformed "division by zero") else .ok (a % b)
  | "<<" => .ok (a <<< b)
  | ">>" => .ok (a >>> b)
  | "&" => .ok (a &&& b)
  | "|" => .ok (a ||| b)
  | "^" => .ok (a ^^^ b)
  | "==" => .ok (truth (a == b))
  | "!=" => .ok (truth (a != b))
  | "<" => .ok (truth (a < b))
  | ">" => .ok (truth (a > b))
  | "<=" => .ok (truth (a ≤ b))
  | ">=" => .ok (truth (a ≥ b))
  | _ => .ok b

/-- The value of a variable. One that is unset or empty counts as zero. -/
def lookUp (e : Environment) (name : String) : Except Fault Int64 :=
  match e.lookup name with
  | none => .ok 0
  | some "" => .ok 0
  | some s => wholeNumber s

/-- The text of a number. -/
def text (n : Int64) : String :=
  toString n.toInt

/-- The value of an expression, and the variables after it. -/
def value : Arithmetic → Environment → Except Fault (Int64 × Environment)
  | .constant n, e => .ok (n, e)
  | .named name, e => (lookUp e name).map (·, e)
  | .unary operator a, e => do
    let (n, e) ← value a e
    return (match operator with
      | "-" => -n
      | "!" => truth (n == 0)
      | "~" => ~~~n
      | _ => n, e)
  | .binary operator a b, e => do
    let (m, e) ← value a e
    if operator == "&&" && m == 0 then return (0, e)
    if operator == "||" && m != 0 then return (1, e)
    let (n, e) ← value b e
    if operator == "&&" || operator == "||" then return (truth (n != 0), e)
    return (← apply operator m n, e)
  | .conditional test yes no, e => do
    let (n, e) ← value test e
    if n != 0 then value yes e else value no e
  | .assign name operator a, e => do
    let (n, e) ← value a e
    let n ← if operator == "" then pure n else apply operator (← lookUp e name) n
    return (n, (name, text n) :: e)

/-- The value of the text of an expression, and the variables after it. -/
def evaluate (s : String) (e : Environment) : Except Fault (Int64 × Environment) :=
  match parse s with
  | .ok a => value a e
  | .error f => .error f

end Arithmetic

end CallAtlas.Shell
