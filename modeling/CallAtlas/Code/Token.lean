/-!
# Tokens of a Rust source

A source is a sequence of token trees : names, single punctuation characters, literals, and groups
in matching brackets. A punctuation character knows whether another one follows it without a gap
(`joint`), so that `>>` can be read as one operator or as two closing brackets. A lifetime is an
apostrophe followed by a name.
-/

namespace CallAtlas.Code

/-- The brackets that enclose a group. -/
inductive Delimiter where
  | paren
  | bracket
  | brace
  deriving DecidableEq, Repr

/-- A literal, with its text where the text decides how it is read. -/
inductive Literal where
  | string
  | int (text : String)
  | float (text : String)
  | other
  deriving DecidableEq, Repr

/-- A token tree. A raw identifier keeps its leading `r#`. -/
inductive Token where
  | ident (name : String)
  | punct (mark : Char) (joint : Bool)
  | literal (value : Literal)
  | group (delimiter : Delimiter) (content : List Token)
  deriving Repr

/-- A lexical unit : a token, or one side of a pair of brackets. -/
inductive Lexeme where
  | token (t : Token)
  | opening (d : Delimiter)
  | closing (d : Delimiter)
  deriving Repr

/-- Match the brackets of a sequence of lexemes. `done` holds the finished tokens of the
innermost open group, newest first, and `outer` the open groups around it. `none` when brackets
do not match. -/
def Lexeme.nest : List Lexeme → (done : List Token) → (outer : List (Delimiter × List Token)) →
    Option (List Token)
  | [], done, [] => some done.reverse
  | [], _, _ :: _ => none
  | .token t :: rest, done, outer => nest rest (t :: done) outer
  | .opening d :: rest, done, outer => nest rest [] ((d, done) :: outer)
  | .closing _ :: _, _, [] => none
  | .closing d :: rest, done, (e, before) :: outer =>
    if d = e then nest rest (.group d done.reverse :: before) outer else none

mutual

/-- Number of tokens in a tree, its inner ones included. -/
def Token.size : Token → Nat
  | .group _ ts => 1 + Token.sizeList ts
  | _ => 1

/-- Number of tokens in a sequence of trees. -/
def Token.sizeList : List Token → Nat
  | [] => 0
  | t :: ts => t.size + Token.sizeList ts

end

end CallAtlas.Code
