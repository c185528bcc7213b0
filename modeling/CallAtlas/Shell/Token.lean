import CallAtlas.Shell.Syntax
import CallAtlas.Text.Decimal

/-!
# Words and tokens of scripts

A script is read from the front. `token` takes the next token : an operator, the end of a line, a
word, or a redirection operator. A token can be given back once. The text of a document that a
redirection announces stands after the line, and is taken when the line ends.
-/

namespace CallAtlas.Shell

open CallAtlas.Text

/-- The least part of a script that has a meaning. A `mark` is an operator or a reserved word. -/
inductive Token where
  | finish
  | newline
  | mark (s : String)
  | word (w : Word)
  | redirection (stream : Option Nat) (operator : String)

/-- A token as complaints name it. -/
def Token.name : Token → String
  | .finish => "end of file"
  | .newline => "newline"
  | .mark s => "\"" ++ s ++ "\""
  | .word _ => "word"
  | .redirection _ _ => "redirection"

/-- A document that a redirection has announced : its number, the line that ends it, whether its
text is taken as it is, and whether tabs in front of its lines are dropped. -/
structure Announced where
  number : Nat
  ending : String
  literally : Bool
  withoutTabs : Bool

/-- A script that is being read. -/
structure Source where
  rest : List Char
  line : Nat := 1
  back : Option Token := none
  announced : List Announced := []
  /-- The number of the next document. -/
  nextDocument : Nat := 0
  /-- The documents that were taken, by number. -/
  documents : List (Nat × Word) := []

/-- What is wrong with a script, and in which line. -/
structure SyntaxError where
  line : Nat
  text : String

/-- Read a part of a script. -/
abbrev Parse := StateT Source (Except SyntaxError)

namespace Parse

variable {α β : Type}

/-- Complain about the current line. -/
def fail (text : String) : Parse α := do
  throw ⟨(← get).line, text⟩

/-- Repeat a step until it gives a result. The number of rounds is bounded. -/
def repeatUpTo (step : α → Parse (α ⊕ β)) : Nat → α → Parse β
  | 0, _ => fail "Too long"
  | n + 1, a => do
    match ← step a with
    | .inl a => repeatUpTo step n a
    | .inr b => return b

/-- Repeat a step that takes a part of the script in each round. -/
def iterate (step : α → Parse (α ⊕ β)) (a : α) : Parse β := do
  repeatUpTo step ((← get).rest.length + 2) a

/-! ## Characters -/

/-- The next character as it is. -/
def peekRaw : Parse (Option Char) :=
  return (← get).rest.head?

/-- Take a character. -/
def advance : Parse Unit :=
  modify fun s =>
    match s.rest with
    | [] => s
    | c :: cs => { s with rest := cs, line := if c == '\n' then s.line + 1 else s.line }

/-- Skip backslashes in front of line ends. -/
def skipContinuations : Nat → Parse Unit
  | 0 => return
  | n + 1 => do
    match (← get).rest with
    | '\\' :: '\n' :: _ => advance; advance; skipContinuations n
    | _ => return

/-- The next character, where continued lines count as one. -/
def peek : Parse (Option Char) := do
  skipContinuations (← get).rest.length
  peekRaw

/-- Take the given character if it comes next. -/
def takes (c : Char) : Parse Bool := do
  if (← peek) == some c then
    advance
    return true
  return false

/-- Take all characters in front that pass a test. -/
def takeWhile (p : Char → Bool) : Parse String := do
  let chars ← iterate (fun (cs : List Char) => do
    match ← peek with
    | some c => if p c then advance; return .inl (c :: cs) else return .inr cs
    | none => return .inr cs) []
  return String.ofList chars.reverse

/-! ## Words -/

/-- What stands around a part of a word. -/
inductive Surroundings where
  | nothing
  | doubleQuotes
  | braces (quoted : Bool)
  | document
  | arithmetic (depth : Nat)
  deriving DecidableEq, Repr

/-- Whether text in these surroundings is quoted. -/
def Surroundings.quotes : Surroundings → Bool
  | .nothing => false
  | .doubleQuotes => true
  | .braces quoted => quoted
  | .document => true
  | .arithmetic _ => true

/-- A character that ends a word. -/
def isMeta (c : Char) : Bool :=
  " \t\n;&|<>()".toList.contains c

/-- Whether a character ends what stands in these surroundings. -/
def Surroundings.endsAt (c : Char) : Surroundings → Bool
  | .nothing => isMeta c
  | .doubleQuotes => c == '"'
  | .braces _ => c == '\x7d'
  | .document => false
  | .arithmetic _ => false

/-- The characters that a backslash keeps from their meaning. -/
def Surroundings.escapes (c : Char) : Surroundings → Bool
  | .nothing => true
  | .doubleQuotes => "$`\"\\".toList.contains c
  | .braces quoted => !quoted || "$`\"\\\x7d".toList.contains c
  | .document => "$`\\".toList.contains c
  | .arithmetic _ => "$`\"\\".toList.contains c

/-- The complaint about surroundings that do not end. -/
def Surroundings.unfinished : Surroundings → Option String
  | .nothing => none
  | .doubleQuotes => some "Unterminated quoted string"
  | .braces true => some "Unterminated quoted string"
  | .braces false => some "Missing '\x7d'"
  | .document => none
  | .arithmetic _ => some "Missing '))'"

/-- A text in surroundings. -/
def Surroundings.piece (around : Surroundings) (s : String) : Piece :=
  if around.quotes then .quoted s else .text s

/-- Take the text in single quotes. -/
def singleQuoted : Parse String := do
  let s ← iterate (fun (cs : List Char) => do
    match ← peekRaw with
    | none => fail "Unterminated quoted string"
    | some c =>
      advance
      return if c == '\'' then .inr cs else .inl (c :: cs)) []
  return String.ofList s.reverse

/-- Take the text up to a backquote. -/
def backquoted (around : Surroundings) : Parse String := do
  let s ← iterate (fun (cs : List Char) => do
    match (← get).rest with
    | [] => fail "EOF in backquote substitution"
    | '`' :: _ =>
      advance
      return .inr cs
    | '\\' :: c :: _ =>
      advance
      advance
      if "`$\\".toList.contains c || (around.quotes && c == '"') then return .inl (c :: cs)
      else if c == '\n' then return .inl cs
      else return .inl (c :: '\\' :: cs)
    | c :: _ =>
      advance
      return .inl (c :: cs)) []
  return String.ofList s.reverse

/-- Read a text in place of the rest of the script. -/
def within (text : String) (r : Parse α) : Parse α := do
  let before ← get
  set { before with rest := text.toList, back := none, announced := [] }
  let a ← r
  modify fun s => { s with
    rest := before.rest, line := before.line, back := before.back, announced := before.announced }
  return a

/-- A parameter that is no name. -/
def isSpecialParameter (c : Char) : Bool :=
  "*@#?$!-".toList.contains c

/-- Take the name of a parameter in braces. -/
def bracedName : Parse (Option String) := do
  match ← peek with
  | some c =>
    if isNameStart c then return some (← takeWhile isNameCharacter)
    else if Decimal.isDigit c then return some (← takeWhile Decimal.isDigit)
    else if isSpecialParameter c then
      advance
      return some c.toString
    else return none
  | none => return none

/-- Take what is made of a parameter in braces. -/
def use : Parse Use := do
  let orNull ← takes ':'
  match ← peek with
  | some '\x7d' => return if orNull then .malformed else .plain
  | some '-' => advance; return .withDefault orNull
  | some '=' => advance; return .withAssignment orNull
  | some '?' => advance; return .required orNull
  | some '+' => advance; return .alternative orNull
  | some '#' =>
    advance
    let longest ← takes '#'
    return if orNull then .malformed else .withoutStart longest
  | some '%' =>
    advance
    let longest ← takes '%'
    return if orNull then .malformed else .withoutEnd longest
  | _ =>
    modify fun s => { s with rest := s.rest.tail }
    return .malformed

/-- Take the name of a parameter in braces and what is made of it. A number sign in front asks for
the length. -/
def bracedParameter : Parse (String × Use) := do
  if (← peek) == some '#' then
    let before ← get
    advance
    let name ← bracedName
    if let some name := name then
      if (← peek) == some '\x7d' then return (name, .length)
    set before
  match ← bracedName with
  | some name => return (name, ← use)
  | none => return ("", .malformed)

/-- The surroundings of the word in braces. -/
def innerWord (around : Surroundings) : Use → Surroundings
  | .withoutStart _ => .braces false
  | .withoutEnd _ => .braces false
  | _ => .braces around.quotes

/-- Take the pieces of a word up to its end. `commands` takes the commands of a substitution, with
the closing parenthesis if there is one. -/
def pieces (commands : Bool → Parse Command) : Nat → Surroundings → Parse (List Piece)
  | 0, _ => return []
  | n + 1, around => do
    match ← if around == .nothing then peek else peekRaw with
    | none =>
      match around.unfinished with
      | some complaint => fail complaint
      | none => return []
    | some c =>
      if around.endsAt c then return []
      let more (first : List Piece) (after : Surroundings) : Parse (List Piece) :=
        return first ++ (← pieces commands n after)
      advance
      match c with
      | '\\' =>
        match ← peekRaw with
        | none => more [around.piece "\\"] around
        | some '\n' => advance; more [] around
        | some d =>
          if around.escapes d then
            advance
            more [.quoted d.toString] around
          else more [around.piece "\\"] around
      | '$' =>
        match ← peek with
        | some '(' =>
          advance
          if ← takes '(' then
            let inner ← pieces commands n (.arithmetic 0)
            more [.number inner around.quotes] around
          else
            let announced := (← get).announced
            modify ({ · with announced := [] })
            let c ← commands true
            modify ({ · with announced })
            more [.output c around.quotes] around
        | some '\x7b' =>
          advance
          let (name, use) ← bracedParameter
          let inner ← pieces commands n (innerWord around use)
          advance
          more [.parameter name use around.quotes (Piece.join inner)] around
        | some d =>
          if isNameStart d then
            let name ← takeWhile isNameCharacter
            more [.parameter name .plain around.quotes []] around
          else if Decimal.isDigit d || isSpecialParameter d then
            advance
            more [.parameter d.toString .plain around.quotes []] around
          else more [around.piece "$"] around
        | none => more [around.piece "$"] around
      | '`' =>
        let text ← backquoted around
        let c ← within text (commands false)
        more [.output c around.quotes] around
      | '"' =>
        match around with
        | .nothing | .braces false =>
          let inner ← pieces commands n .doubleQuotes
          advance
          more (if inner.isEmpty then [.quoted ""] else inner) around
        | .braces true => more [] around
        | _ => more [.quoted "\""] around
      | '\'' =>
        match around with
        | .nothing | .braces false =>
          let s ← singleQuoted
          more [.quoted s] around
        | _ => more [.quoted "'"] around
      | '(' =>
        match around with
        | .arithmetic depth => more [.quoted "("] (.arithmetic (depth + 1))
        | _ => more [around.piece "("] around
      | ')' =>
        match around with
        | .arithmetic 0 =>
          if ← takes ')' then return []
          more [.quoted ")"] around
        | .arithmetic (depth + 1) => more [.quoted ")"] (.arithmetic depth)
        | _ => more [around.piece ")"] around
      | c => more [around.piece c.toString] around

/-- Take the pieces in surroundings. -/
def piecesIn (commands : Bool → Parse Command) (around : Surroundings) : Parse Word := do
  return Piece.join (← pieces commands ((← get).rest.length + 1) around)

/-! ## Documents -/

/-- Take a line with its end. -/
def takeLine : Parse (List Char) := do
  let before ← get
  let line := before.rest.takeWhile (· != '\n')
  match before.rest.drop line.length with
  | [] => set { before with rest := [] }; return line
  | _ :: rest => set { before with rest, line := before.line + 1 }; return line ++ ['\n']

/-- Take the lines of a document up to the one that ends it. -/
def documentLines (a : Announced) : Parse (List Char) := do
  iterate (fun (text : List Char) => do
    if (← get).rest.isEmpty then return .inr text
    let line ← takeLine
    let line := if a.withoutTabs then line.dropWhile (· == '\t') else line
    if line == a.ending.toList || line == a.ending.toList ++ ['\n'] then return .inr text
    return .inl (text ++ line)) []

/-- Take the documents that were announced. -/
def documents (commands : Bool → Parse Command) : Parse Unit := do
  let announced := (← get).announced
  modify ({ · with announced := [] })
  for a in announced do
    let text := String.ofList (← documentLines a)
    let word ←
      if a.literally then pure [.quoted text] else within text (piecesIn commands .document)
    modify fun s => { s with documents := (a.number, word) :: s.documents }

/-! ## Tokens -/

/-- The reserved words. -/
def reserved : List String :=
  ["!", "case", "do", "done", "elif", "else", "esac", "fi", "for", "if", "in", "then",
    "until", "while", "\x7b", "\x7d"]

/-- Skip blanks and comments. -/
def blanks : Parse Unit := do
  iterate (fun (_ : Unit) => do
    match ← peek with
    | some ' ' => advance; return .inl ()
    | some '\t' => advance; return .inl ()
    | some '#' =>
      modify fun s => { s with rest := s.rest.dropWhile (· != '\n') }
      return .inl ()
    | _ => return .inr ()) ()

/-- Take a redirection operator. -/
def redirectionOperator : Parse String := do
  if ← takes '<' then
    if ← takes '<' then return if ← takes '-' then "<<-" else "<<"
    else if ← takes '&' then return "<&"
    else if ← takes '>' then return "<>"
    else return "<"
  else
    advance
    if ← takes '>' then return ">>"
    else if ← takes '&' then return ">&"
    else if ← takes '|' then return ">"
    else return ">"

/-- The stream that a redirection operator applies to, when a word of this kind stands in front. -/
def streamBefore? : Word → Option (Option Nat)
  | [] => some none
  | [.text s] =>
    match s.toList with
    | [c] => if Decimal.isDigit c then some (some (Decimal.digit c)) else none
    | _ => none
  | _ => none

/-- Take a token that was not given back. -/
def freshToken (commands : Bool → Parse Command) : Parse Token := do
  blanks
  let operator (c : Char) : Parse Token := do
    advance
    return .mark (if ← takes c then c.toString ++ c.toString else c.toString)
  match ← peek with
  | none => documents commands; return .finish
  | some '\n' => advance; documents commands; return .newline
  | some '&' => operator '&'
  | some '|' => operator '|'
  | some ';' => operator ';'
  | some '(' => advance; return .mark "("
  | some ')' => advance; return .mark ")"
  | some _ =>
    let w ← piecesIn commands .nothing
    match ← peek, streamBefore? w with
    | some '<', some stream => return .redirection stream (← redirectionOperator)
    | some '>', some stream => return .redirection stream (← redirectionOperator)
    | _, _ => return .word w

/-- A word that is reserved, where reserved words count. -/
def asReserved : Token → Token
  | .word [.text s] => if reserved.contains s then .mark s else .word [.text s]
  | t => t

/-- Take a token, at once or after line ends. -/
def token (commands : Bool → Parse Command) (withReserved overLines : Bool) : Parse Token := do
  let t ← iterate (fun (_ : Unit) => do
    let s ← get
    let t ← match s.back with
      | some t => set { s with back := none }; pure t
      | none => freshToken commands
    match t with
    | .newline => return if overLines then .inl () else .inr t
    | t => return .inr t) ()
  return if withReserved then asReserved t else t

/-- Give a token back. -/
def giveBack (t : Token) : Parse Unit :=
  modify ({ · with back := some t })

/-- Complain about a token. -/
def unexpected (t : Token) : Parse α :=
  fail (t.name ++ " unexpected")

/-- Complain about a token in place of another. -/
def expected (t : Token) (other : String) : Parse α :=
  fail (t.name ++ " unexpected (expecting " ++ other ++ ")")

end Parse

end CallAtlas.Shell
