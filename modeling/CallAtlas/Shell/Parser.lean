import CallAtlas.Shell.Token

/-!
# Reading commands

`Parse.nextLine` takes the commands of one line, or of as many lines as they need. A script is read
line by line, so that what comes before a mistake is run. `Parse.commands` ties the grammar
together; the depth of nesting is bounded by the length of the script.
-/

namespace CallAtlas.Shell.Parse

/-- What is to be read : the commands of a line, a list that has at least one command, a list that
may be empty, a list that may be empty and is closed by a parenthesis, or a single command. -/
inductive Goal where
  | line
  | block
  | optionalBlock
  | enclosed
  | command
  deriving DecidableEq, Repr

/-- How the parts of the grammar read each other. -/
abbrev Grammar := Goal → Parse Command

namespace Grammar

variable (g : Grammar)

/-- Take the commands of a substitution. -/
def substituted (closed : Bool) : Parse Command :=
  g (if closed then .enclosed else .optionalBlock)

/-- Take a token where reserved words do not count. -/
def plainToken : Parse Token :=
  token g.substituted false false

/-- Take a token where reserved words count. -/
def commandToken : Parse Token :=
  token g.substituted true false

/-- Take a token where reserved words count, after line ends. -/
def blockToken : Parse Token :=
  token g.substituted true true

/-- Take the given mark. -/
def require (t : Token) (s : String) : Parse Unit :=
  match t with
  | .mark m => if m == s then return else expected t ("\"" ++ s ++ "\"")
  | _ => expected t ("\"" ++ s ++ "\"")

/-! ## Redirections -/

/-- The text of a word with no regard to quotes, and whether there are any. -/
def plainText (w : Word) : String × Bool :=
  (String.join (w.map fun p =>
      match p with
      | .text s => s
      | .quoted s => s
      | .parameter name _ _ _ => "$" ++ name
      | _ => ""),
    w.any fun p =>
      match p with
      | .quoted _ => true
      | _ => false)

/-- Take the word after a redirection operator. -/
def redirection (stream : Option Nat) (operator : String) : Parse Redirection := do
  let t ← g.plainToken
  match t with
  | .word w =>
    match operator with
    | "<" => return .file (stream.getD 0) .reading w
    | ">" => return .file (stream.getD 1) .writing w
    | ">>" => return .file (stream.getD 1) .appending w
    | "<>" => return .file (stream.getD 0) .both w
    | "<&" => return .copy (stream.getD 0) w
    | ">&" => return .copy (stream.getD 1) w
    | _ =>
      let (ending, literally) := plainText w
      let number := (← get).nextDocument
      let announced : Announced := { number, ending, literally, withoutTabs := operator == "<<-" }
      modify fun s => { s with announced := s.announced ++ [announced], nextDocument := number + 1 }
      return .document (stream.getD 0) number
  | t => unexpected t

/-- Take the redirections after a compound command. -/
def redirections : Parse (List Redirection) := do
  let rs ← iterate (fun (rs : List Redirection) => do
    match ← g.commandToken with
    | .redirection stream operator => return .inl ((← g.redirection stream operator) :: rs)
    | t => giveBack t; return .inr rs) []
  return rs.reverse

/-! ## Simple commands -/

/-- The name and the value of an assignment. -/
def assignment? : Word → Option (String × Word)
  | .text s :: rest =>
    let cs := s.toList
    let name := cs.takeWhile isNameCharacter
    match cs.drop name.length with
    | '=' :: value =>
      if isName (String.ofList name) then
        some
          (String.ofList name, if value.isEmpty then rest else .text (String.ofList value) :: rest)
      else none
    | _ => none
  | _ => none

/-- The names that no function can have. -/
def specialNames : List String :=
  [".", ":", "break", "continue", "eval", "exec", "exit", "export", "local", "readonly", "return",
    "set", "shift", "times", "trap", "unset"]

/-- The parts of a simple command, the last ones first. -/
structure Parts where
  assignments : List (String × Word) := []
  words : List Word := []
  redirections : List Redirection := []

/-- The name of a function, when a parenthesis comes after these parts. -/
def Parts.functionName? (p : Parts) : Option Word :=
  match p with
  | ⟨[], [w], []⟩ => some w
  | _ => none

/-- Take the rest of the definition of a function. -/
def function (name : Word) : Parse Command := do
  require (← g.plainToken) ")"
  match name with
  | [.text s] =>
    if !isName s || specialNames.contains s then fail "Bad function name"
    let t ← g.blockToken
    giveBack t
    return .definition s (← g .command)
  | _ => fail "Bad function name"

/-- Take a simple command, or the definition of a function. -/
def simple : Parse Command := do
  let line := (← get).line
  iterate (fun (p : Parts) => do
    let finish (t : Token) : Parse (Parts ⊕ Command) := do
      giveBack t
      return .inr (.simple line p.assignments.reverse p.words.reverse p.redirections.reverse)
    match ← g.plainToken with
    | .word w =>
      match if p.words.isEmpty then assignment? w else none with
      | some a => return .inl { p with assignments := a :: p.assignments }
      | none => return .inl { p with words := w :: p.words }
    | .redirection stream operator =>
      return .inl { p with redirections := (← g.redirection stream operator) :: p.redirections }
    | .mark "(" =>
      match p.functionName? with
      | some name => return .inr (← g.function name)
      | none => finish (.mark "(")
    | t => finish t) {}

/-! ## Compound commands -/

/-- Take the rest of a choice, after its condition has begun. -/
def choice : Parse Command := do
  let clauses ← iterate (fun (clauses : List (Command × Command)) => do
    let test ← g .block
    require (← g.plainToken) "then"
    let clauses := (test, ← g .block) :: clauses
    match ← g.plainToken with
    | .mark "elif" => return .inl clauses
    | t => giveBack t; return .inr clauses) []
  let last ← match ← g.plainToken with
    | .mark "else" => g .block
    | t => giveBack t; pure .nothing
  require (← g.plainToken) "fi"
  return clauses.foldl (fun no (test, yes) => .choice test yes no) last

/-- Take the rest of a loop with a condition. -/
def repetition (whileTrue : Bool) : Parse Command := do
  let test ← g .block
  require (← g.plainToken) "do"
  let body ← g .block
  require (← g.plainToken) "done"
  return .repetition whileTrue test body

/-- Take words up to the end of a line or a semicolon. -/
def words : Parse (List Word) := do
  let ws ← iterate (fun (ws : List Word) => do
    match ← g.plainToken with
    | .word w => return .inl (w :: ws)
    | .newline => return .inr ws
    | .mark ";" => return .inr ws
    | t => unexpected t) []
  return ws.reverse

/-- Take the rest of a loop over words. -/
def iteration : Parse Command := do
  let line := (← get).line
  match ← g.plainToken with
  | .word [.text name] =>
    if !isName name then fail "Bad for loop variable"
    let words ← match ← g.blockToken with
      | .mark "in" => g.words
      | .mark ";" => pure [[.parameter "@" .plain true []]]
      | t => giveBack t; pure [[.parameter "@" .plain true []]]
    require (← g.blockToken) "do"
    let body ← g .block
    require (← g.plainToken) "done"
    return .iteration line name words body
  | _ => fail "Bad for loop variable"

/-- Take the patterns of a case, after the token that starts them. -/
def patterns (first : Token) : Parse (List Word) := do
  let first ← match first with
    | .mark "(" => g.plainToken
    | t => pure t
  let (ws, _) ← iterate (fun ((ws, t) : List Word × Token) => do
    let ws ← match t with
      | .word w => pure (w :: ws)
      | .mark s => if reserved.contains s then pure ([.text s] :: ws) else expected t "\")\""
      | t => expected t "\")\""
    match ← g.plainToken with
    | .mark "|" => return .inl (ws, ← g.plainToken)
    | t => require t ")"; return .inr (ws, t)) ([], first)
  return ws.reverse

/-- Take the rest of a selection. -/
def selection : Parse Command := do
  let line := (← get).line
  match ← g.plainToken with
  | .word word =>
    require (← g.blockToken) "in"
    let cases ← iterate (fun (cases : List (List Word × Command)) => do
      match ← g.blockToken with
      | .mark "esac" => return .inr cases
      | t =>
        let patterns ← g.patterns t
        let cases := (patterns, ← g .optionalBlock) :: cases
        match ← g.blockToken with
        | .mark "esac" => return .inr cases
        | t => require t ";;"; return .inl cases) []
    return .selection line word cases.reverse
  | t => expected t "word"

/-- Take a command. -/
def command : Parse Command := do
  let line := (← get).line
  let compound (c : Command) : Parse Command := do
    match ← g.redirections with
    | [] => return c
    | rs => return .redirected line c rs
  let closed (c : Command) (close : String) : Parse Command := do
    require (← g.plainToken) close
    compound c
  match ← g.commandToken with
  | .mark "if" => compound (← g.choice)
  | .mark "while" => compound (← g.repetition true)
  | .mark "until" => compound (← g.repetition false)
  | .mark "for" => compound (← g.iteration)
  | .mark "case" => compound (← g.selection)
  | .mark "(" => closed (.subshell (← g .block)) ")"
  | .mark "\x7b" => closed (← g .block) "\x7d"
  | .word w => giveBack (.word w); g.simple
  | .redirection stream operator => giveBack (.redirection stream operator); g.simple
  | t => unexpected t

/-! ## Lists -/

/-- Take a pipeline, whose first token was looked at. -/
def pipeline : Parse Command := do
  let negated ← match ← g.commandToken with
    | .mark "!" => pure true
    | t => giveBack t; pure false
  let first ← g.command
  let commands ← iterate (fun (cs : List Command) => do
    match ← g.plainToken with
    | .mark "|" =>
      giveBack (← g.blockToken)
      return .inl ((← g.command) :: cs)
    | t => giveBack t; return .inr cs) [first]
  let c := match commands with
    | [c] => c
    | cs => .pipeline cs.reverse
  return if negated then .negation c else c

/-- Take pipelines that are joined by conditions. -/
def conditions : Parse Command := do
  let first ← g.pipeline
  iterate (fun (c : Command) => do
    match ← g.plainToken with
    | .mark "&&" => giveBack (← g.blockToken); return .inl (.both c (← g.pipeline))
    | .mark "||" => giveBack (← g.blockToken); return .inl (.either c (← g.pipeline))
    | t => giveBack t; return .inr c) first

/-- Whether a token ends a list. -/
def endsList : Token → Bool
  | .finish => true
  | .mark s => [")", ";;", "do", "done", "elif", "else", "esac", "fi", "then", "\x7d"].contains s
  | _ => false

/-- A command after others. -/
def andThen : Command → Command → Command
  | .nothing, c => c
  | a, b => .sequence a b

/-- Take a list of commands. -/
def list (goal : Goal) : Parse Command := do
  let oneLine := goal == .line
  iterate (fun ((before, first) : Command × Bool) => do
    let t ← token g.substituted true !oneLine
    match t with
    | .newline => return .inr before
    | .finish => giveBack t; return .inr before
    | t =>
      giveBack t
      if !oneLine && (!first || goal != .block) && endsList t then return .inr before
      let c ← g.conditions
      let t ← g.plainToken
      let c := match t with
        | .mark "&" => .background c
        | _ => c
      let before := andThen before c
      match t with
      | .finish => giveBack t; return .inr before
      | .newline => giveBack t; return .inl (before, false)
      | .mark "&" => return .inl (before, false)
      | .mark ";" => return .inl (before, false)
      | t =>
        if oneLine then unexpected t
        giveBack t
        return .inr before) (.nothing, true)

/-- Take what is to be read. -/
def take : Goal → Parse Command
  | .command => g.command
  | .enclosed => do
    let c ← g.list .enclosed
    require (← g.plainToken) ")"
    return c
  | goal => g.list goal

end Grammar

/-- Take commands, nested at most a number of times. -/
def commands : Nat → Grammar
  | 0, _ => fail "Too deep"
  | n + 1, goal => Grammar.take (commands n) goal

/-- Take the commands of the next line. At the end of the script there are none. -/
def nextLine : Parse (Option Command) := do
  let g : Grammar := commands ((← get).rest.length + 1)
  match ← g.commandToken with
  | .finish => return none
  | .newline => return some .nothing
  | t => giveBack t; return some (← Grammar.list g .line)

end CallAtlas.Shell.Parse
