import CallAtlas.Code.Grammar.Items
import CallAtlas.Code.Token.Lexer

/-!
# The grammar tied together

Each rule refers to the others one level down, and `Grammar.level n` allows `n` levels. A construct
with `k` tokens needs few levels more than it has tokens, since no rule refers to another more than
a few times without taking one, so the level in `Item.ofSource?` is never reached.
-/

namespace CallAtlas.Code

/-- The rules, with all references going to `g`. -/
def Grammar.above (g : Grammar) : Grammar where
  type := Grammar.typeRule g
  bound := Grammar.boundRule g
  pattern := Grammar.patternRule g
  expr := Grammar.exprRule g
  unary := Grammar.unaryRule g
  climb := Grammar.climbRule g
  conditional := Grammar.conditionalRule g
  leading := Grammar.leadingRule g
  body := Grammar.bodyRule g
  item := Grammar.itemRule g
  fields := Grammar.fieldsRule g
  useTree := Grammar.useTreeRule g

/-- The rules, with references to a depth of `n`. -/
def Grammar.level (n : Nat) : Grammar :=
  n.repeat Grammar.above Grammar.exhausted

/-- Drop a leading `#!` line, unless the mark begins an attribute. -/
def dropShebang (cs : List Char) : List Char :=
  match cs with
  | '#' :: '!' :: rest =>
    match Lexer.skipGaps rest.length rest with
    | '[' :: _ => cs
    | _ => cs.dropWhile (· ≠ '\n')
  | _ => cs

/-- The items of a source, or `none` when it is not a Rust source. -/
def Item.ofSource? (source : String) : Option (List Item) := do
  let tokens ← Token.ofText? (dropShebang (Lexer.dropOrderMark source.toList))
  let g := Grammar.level (8 * Token.sizeList tokens + 16)
  Reader.whole (do let _ ← g.innerAttrs; Grammar.items g) tokens

end CallAtlas.Code
