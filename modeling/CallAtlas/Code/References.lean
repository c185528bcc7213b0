import CallAtlas.Code.Tree

/-!
# The names that a body mentions

`references body` lists the names that a body mentions, in reading order : every step of a path, the
last step of a struct literal's path, the method of a method call after its receiver. Patterns come
before the expression they match. Types add the expressions in them, such as array lengths, and so
do attributes with a value. An item inside the body adds nothing, since it has bodies of its own.
-/

namespace CallAtlas.Code

mutual

/-- Names mentioned by an expression. Attributes count, except on a path, a struct literal, a method
call or a form without a meaning. -/
def Expr.names : Expr → List String
  | .literal => []
  | .hole => []
  | .uninterpreted _ => []
  | .path steps => steps
  | .attributed values e =>
    match e with
    | .path .. => e.names
    | .struct .. => e.names
    | .methodCall .. => e.names
    | .uninterpreted _ => []
    | _ => Expr.namesList values ++ e.names
  | .unary _ e => e.names
  | .binary _ l r => l.names ++ r.names
  | .index e i => e.names ++ i.names
  | .cast e type _ => e.names ++ Expr.namesList type
  | .range lo hi => Expr.namesOption lo ++ Expr.namesOption hi
  | .array es => Expr.namesList es
  | .tuple es => Expr.namesList es
  | .repeated e length => e.names ++ length.names
  | .call f args => f.names ++ Expr.namesList args
  | .methodCall receiver method args => receiver.names ++ method :: Expr.namesList args
  | .struct name fields base => name :: (Expr.namesList fields ++ Expr.namesOption base)
  | .block _ body => Stmt.namesList body
  | .conditional cond body otherwise =>
    cond.names ++ Stmt.namesList body ++ Expr.namesOption otherwise
  | .whileLoop cond body => cond.names ++ Stmt.namesList body
  | .forLoop pattern e body => Expr.namesList pattern ++ e.names ++ Stmt.namesList body
  | .select e arms => e.names ++ Arm.namesList arms
  | .letCondition pattern e => Expr.namesList pattern ++ e.names
  | .closure signature body => Expr.namesList signature ++ body.names
  | .jump _ e => Expr.namesOption e
  | .macroCall _ args => Expr.namesList args

/-- Names mentioned by expressions one after another. -/
def Expr.namesList : List Expr → List String
  | [] => []
  | e :: es => e.names ++ Expr.namesList es

/-- Names mentioned by an expression that may be left out. -/
def Expr.namesOption : Option Expr → List String
  | none => []
  | some e => e.names

/-- Names mentioned by the arms of a `match`. -/
def Arm.namesList : List Arm → List String
  | [] => []
  | .mk attrs pattern guard body :: arms =>
    Expr.namesList attrs ++ Expr.namesList pattern ++ Expr.namesOption guard ++ body.names ++
      Arm.namesList arms

/-- Names mentioned by a statement. -/
def Stmt.names : Stmt → List String
  | .bind attrs pattern init otherwise =>
    Expr.namesList attrs ++ Expr.namesList pattern ++ Expr.namesOption init ++
      Stmt.namesOption otherwise
  | .item _ => []
  | .expr e => e.names
  | .macroCall attrs args => Expr.namesList attrs ++ Expr.namesList args

/-- Names mentioned by the statements of a body. -/
def Stmt.namesList : List Stmt → List String
  | [] => []
  | s :: ss => s.names ++ Stmt.namesList ss

/-- Names mentioned by a body that may be left out. -/
def Stmt.namesOption : Option (List Stmt) → List String
  | none => []
  | some ss => Stmt.namesList ss

end

/-- The names that a body mentions, in reading order. -/
def references (body : List Stmt) : List String :=
  Stmt.namesList body

end CallAtlas.Code
