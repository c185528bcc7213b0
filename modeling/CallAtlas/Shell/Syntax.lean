/-!
# Shell commands

A script is a list of commands. A command has words, and a word is made of pieces : texts, quoted or
not, and places that are filled in when the command is run. Commands are joined to pipelines and
lists, and grouped by compound commands.
-/

namespace CallAtlas.Shell

/-- What is made of the value of a parameter. With `orNull` a parameter whose value is empty counts
as unset. -/
inductive Use where
  | plain
  | length
  | withDefault (orNull : Bool)
  | withAssignment (orNull : Bool)
  | required (orNull : Bool)
  | alternative (orNull : Bool)
  | withoutStart (longest : Bool)
  | withoutEnd (longest : Bool)
  | malformed
  deriving DecidableEq, Repr

/-- How a file is opened. -/
inductive Access where
  | reading
  | writing
  | appending
  | both
  deriving DecidableEq, Repr

mutual

/-- A part of a word. -/
inductive Piece where
  | text (s : String)
  | quoted (s : String)
  | parameter (name : String) (use : Use) (quoted : Bool) (word : List Piece)
  | output (c : Command) (quoted : Bool)
  | number (expression : List Piece) (quoted : Bool)

/-- Where a stream of a command goes to or comes from. The text of a document stands apart, under
its number. -/
inductive Redirection where
  | file (stream : Nat) (access : Access) (path : List Piece)
  | copy (stream : Nat) (source : List Piece)
  | document (stream : Nat) (number : Nat)

/-- A command. Those that can fail by themselves know their line. -/
inductive Command where
  | nothing
  | simple (line : Nat) (assignments : List (String × List Piece)) (words : List (List Piece))
    (redirections : List Redirection)
  | pipeline (commands : List Command)
  | negation (c : Command)
  | both (a b : Command)
  | either (a b : Command)
  | sequence (a b : Command)
  | background (c : Command)
  | redirected (line : Nat) (c : Command) (redirections : List Redirection)
  | subshell (c : Command)
  | choice (test yes no : Command)
  | repetition (whileTrue : Bool) (test body : Command)
  | iteration (line : Nat) (name : String) (words : List (List Piece)) (body : Command)
  | selection (line : Nat) (word : List Piece) (cases : List (List (List Piece) × Command))
  | definition (name : String) (body : Command)

end

/-- The parts of a word. -/
abbrev Word := List Piece

/-- A character that a name may start with. -/
def isNameStart (c : Char) : Bool :=
  c.isAlpha || c == '_'

/-- A character that a name may go on with. -/
def isNameCharacter (c : Char) : Bool :=
  c.isAlphanum || c == '_'

/-- Whether a text is a name. -/
def isName (s : String) : Bool :=
  match s.toList with
  | [] => false
  | c :: cs => isNameStart c && cs.all isNameCharacter

/-- Join neighbouring texts of the same kind. -/
def Piece.join : List Piece → List Piece
  | [] => []
  | p :: ps =>
    match p, Piece.join ps with
    | .text a, .text b :: rest => .text (a ++ b) :: rest
    | .quoted a, .quoted b :: rest => .quoted (a ++ b) :: rest
    | p, rest => p :: rest

end CallAtlas.Shell
