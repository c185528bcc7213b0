/-!
# Syntax trees of a Rust source

The trees keep what an outline of a source needs : the declared names, and for each body every place
where a name can be mentioned, in reading order. A pattern or a type is kept as the list of the
expressions inside it (paths, bounds of ranges, array lengths, macro arguments), an attribute
`#[name = value]` as its value. Lifetimes, labels, visibility and the text of literals are left out.
Forms that the grammar accepts without giving them a meaning are `uninterpreted`.

Items stand inside bodies (`Stmt.item`) and have bodies of their own, so the types are declared
together.
-/

namespace CallAtlas.Code

/-- What a prefix, a suffix or a pair of brackets does to an expression. -/
inductive UnaryOp where
  | reference
  | rawAddress
  | deref
  | not
  | neg
  | paren
  | field
  | await
  | try
  deriving DecidableEq, Repr

/-- The binary operators, in groups of equal precedence. -/
inductive BinaryOp where
  | assign
  | or
  | and
  | compare
  | bitOr
  | bitXor
  | bitAnd
  | shift
  | sum
  | product
  deriving DecidableEq, Repr

/-- What a braced block is for. -/
inductive BlockKind where
  | plain
  | unguarded
  | constant
  | async
  | try
  | loop
  deriving DecidableEq, Repr

/-- The expressions that leave their place. -/
inductive JumpKind where
  | break
  | continue
  | return
  | yield
  deriving DecidableEq, Repr

/-- What an implementation is for : a path, with the name of each step, or a type of
another form. -/
inductive SelfType where
  | path (segments : List String)
  | other
  deriving DecidableEq, Repr

mutual

/-- An expression. -/
inductive Expr where
  | literal
  | hole
  /-- A form without a meaning, and whether it closes with a brace. -/
  | uninterpreted (braced : Bool)
  /-- A path, with the name of each step. -/
  | path (steps : List String)
  /-- An expression after attributes with the given values. -/
  | attributed (values : List Expr) (e : Expr)
  | unary (op : UnaryOp) (e : Expr)
  | binary (op : BinaryOp) (l r : Expr)
  | index (e i : Expr)
  /-- A cast, with the expressions inside the type, and whether the type closes with a brace. -/
  | cast (e : Expr) (type : List Expr) (braced : Bool)
  | range (lo hi : Option Expr)
  | array (es : List Expr)
  | tuple (es : List Expr)
  | repeated (e length : Expr)
  | call (f : Expr) (args : List Expr)
  | methodCall (receiver : Expr) (method : String) (args : List Expr)
  /-- A struct literal, with the last step of its path. -/
  | struct (name : String) (fields : List Expr) (base : Option Expr)
  | block (kind : BlockKind) (body : List Stmt)
  | conditional (cond : Expr) (body : List Stmt) (otherwise : Option Expr)
  | whileLoop (cond : Expr) (body : List Stmt)
  | forLoop (pattern : List Expr) (e : Expr) (body : List Stmt)
  | select (e : Expr) (arms : List Arm)
  | letCondition (pattern : List Expr) (e : Expr)
  /-- A closure, with the expressions inside its parameters and its result type. -/
  | closure (signature : List Expr) (body : Expr)
  | jump (kind : JumpKind) (e : Option Expr)
  /-- A macro call. It has arguments when the whole of its body is a list of expressions. -/
  | macroCall (braced : Bool) (args : List Expr)

/-- An arm of a `match`. -/
inductive Arm where
  | mk (attrs pattern : List Expr) (guard : Option Expr) (body : Expr)

/-- A statement of a body. -/
inductive Stmt where
  | bind (attrs pattern : List Expr) (init : Option Expr) (otherwise : Option (List Stmt))
  | item (i : Item)
  | expr (e : Expr)
  | macroCall (attrs args : List Expr)

/-- An item. -/
inductive Item where
  | function (name : String) (body : List Stmt)
  | struct (name : String)
  | enum (name : String)
  | union (name : String)
  | trait (name : String) (members : List Member)
  | implementation (self : SelfType) (members : List Member)
  /-- A module, with its items when they stand in this source. -/
  | module (name : String) (content : Option (List Item))
  | other

/-- A member of a trait or an implementation. A method that a trait only requires has no body. -/
inductive Member where
  | method (name : String) (body : Option (List Stmt))
  | other

end

/-- An expression with the attributes before it, if any has a value. -/
def Expr.withAttrs (values : List Expr) (e : Expr) : Expr :=
  match values, e with
  | [], e => e
  | vs, .attributed ws e => .attributed (vs ++ ws) e
  | vs, e => .attributed vs e

/-- An expression without the attributes before it. -/
def Expr.bare : Expr → Expr
  | .attributed _ e => e
  | e => e

end CallAtlas.Code
