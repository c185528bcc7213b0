import CallAtlas.Code.Grammar.Expressions

/-!
# Statements

A body is a sequence of statements. An expression needs a semicolon after it unless it ends the body
or is complete by itself, as a block is. Words that begin an item begin one here too.
-/

namespace CallAtlas.Code

/-- Put attributes on the leftmost operand of an expression. -/
def Expr.attachLeft (values : List Expr) : Expr → Expr
  | .binary op l r => .binary op (l.attachLeft values) r
  | .cast e t braced => .cast (e.attachLeft values) t braced
  | e => e.withAttrs values

mutual

/-- Whether an expression ends in a closing brace. -/
def Expr.endsInBrace : Expr → Bool
  | .attributed _ e => e.endsInBrace
  | .binary _ _ r => r.endsInBrace
  | .block .. => true
  | .cast _ _ braced => braced
  | .closure _ e => e.endsInBrace
  | .conditional .. => true
  | .forLoop .. => true
  | .jump .continue _ => false
  | .jump _ e => Expr.endsInBraceOption e
  | .letCondition _ e => e.endsInBrace
  | .macroCall braced _ => braced
  | .range _ hi => Expr.endsInBraceOption hi
  | .select .. => true
  | .struct .. => true
  | .unary .reference e => e.endsInBrace
  | .unary .rawAddress e => e.endsInBrace
  | .unary .deref e => e.endsInBrace
  | .unary .not e => e.endsInBrace
  | .unary .neg e => e.endsInBrace
  | .uninterpreted braced => braced
  | .whileLoop .. => true
  | _ => false

/-- Whether an expression that may be left out ends in a closing brace. -/
def Expr.endsInBraceOption : Option Expr → Bool
  | none => false
  | some e => e.endsInBrace

end

namespace Grammar

open Reader

variable (g : Grammar)

/-- Whether a statement begins with an item. -/
def atItem (ts : List Token) : Bool :=
  let next := skipOne ts
  let third := skipTwo ts
  atWord "pub" ts ||
  (atWord "crate" ts && !atPunct "::" next) ||
  atWord "extern" ts ||
  atWord "use" ts ||
  (atWord "static" ts && (atWord "mut" next || atName next)) ||
  (atWord "const" ts &&
    !(atGroup .brace next || atWord "static" next ||
      (atWord "async" next && !atAnyWord ["unsafe", "extern", "fn"] third) ||
      atWord "move" next || atPunct "|" next)) ||
  (atWord "unsafe" ts && !atGroup .brace next) ||
  (atWord "async" ts && atAnyWord ["unsafe", "extern", "fn"] next) ||
  atAnyWord ["fn", "mod", "type", "struct", "enum", "trait", "impl", "macro"] ts ||
  (atWord "union" ts && atName next) ||
  (atWord "auto" ts && atWord "trait" next) ||
  (atWord "default" ts && atAnyWord ["unsafe", "impl"] next)

/-- How a macro call stands in a body. -/
inductive MacroPlace where
  /-- It defines something, as in `macro_rules! name { … }`. -/
  | item
  /-- It is a statement in braces. -/
  | statement
  /-- It is part of an expression, or there is none. -/
  | inExpr
  deriving DecidableEq

/-- How a macro call that comes next stands in the body. -/
def macroPlace (ts : List Token) : MacroPlace :=
  match plainPath ts with
  | none => .inExpr
  | some ((), rest) =>
    let next := skipOne rest
    let third := skipTwo rest
    if !atPunct "!" rest then .inExpr
    else if atName next || atWord "try" next then .item
    else if atGroup .brace next &&
        !((atPunct "." third && !atPunct ".." third) || atPunct "?" third) then .statement
    else .inExpr

/-- A `let` statement after its attributes. -/
def letStmt (attrs : List Expr) : Reader Stmt := do
  word "let"
  let p ← g.pattern
  let pattern ←
    if ← punct? ":" then do
      let t ← g.type true
      pure (p.inner ++ t.inner)
    else pure p.inner
  if ← punct? "=" then
    let e ← g.expr true
    if !e.endsInBrace && atWord "else" (← ahead) then
      word "else"
      let otherwise ← g.braced
      punct ";"
      return .bind attrs pattern (some e) (some otherwise)
    punct ";"
    return .bind attrs pattern (some e) none
  punct ";"
  return .bind attrs pattern none none

/-- Whether an expression needs a semicolon before another statement. -/
def needsSemicolon (e : Expr) : Bool :=
  match e.bare with
  | .macroCall braced _ => !braced
  | _ => !isBlockLike e

/-- A statement, and whether it has to be the last. -/
def stmt : Reader (Stmt × Bool) := do
  let attrs ← g.outerAttrs
  let ts ← ahead
  let place := macroPlace ts
  if place = .statement then
    plainPath
    punct "!"
    let (_, content) ← someGroup
    let _ ← punct? ";"
    return (.macroCall attrs (g.macroArgs content), false)
  if atWord "let" ts then return (← letStmt g attrs, false)
  if atItem ts || place = .item then return (.item (← g.item), false)
  let e := (← g.leading).attachLeft attrs
  let closed ← punct? ";"
  return (.expr e, !closed && needsSemicolon e)

/-- The statements of a body, to its end. -/
def bodyRule : Reader (List Stmt) :=
  loop step []
where
  step (acc : List Stmt) : Reader (List Stmt ⊕ List Stmt) := do
    let _ ← many (atPunct ";") (punct ";")
    if ← atEnd then return .inr acc
    let (s, last) ← stmt g
    let ended ← atEnd
    require (ended || !last)
    if ended then return .inr (acc ++ [s])
    return .inl (acc ++ [s])

end Grammar

end CallAtlas.Code
