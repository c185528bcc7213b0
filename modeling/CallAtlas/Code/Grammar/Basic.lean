import CallAtlas.Code.Grammar.Reader
import CallAtlas.Code.Tree

/-!
# The grammar as a set of rules

The rules of the language refer to each other. `Grammar` names those that others need, and every
rule is written against a `Grammar` for the constructs inside its own. The rules are tied together
in `CallAtlas.Code.Grammar`, where each reference goes one level down.

This file has the rules that the rest shares : attributes, plain paths, and the arguments of macros.
-/

namespace CallAtlas.Code

/-- Precedence of operators, lowest first : jumps and closures, assignment, ranges, the binary
operators, casts. -/
abbrev Precedence := Nat

namespace Precedence

def lowest : Precedence := 0
def assign : Precedence := 1
def range : Precedence := 2
def compare : Precedence := 6
def cast : Precedence := 13

end Precedence

/-- The precedence of a binary operator. -/
def BinaryOp.precedence : BinaryOp → Precedence
  | .assign => 1
  | .or => 3
  | .and => 4
  | .compare => 6
  | .bitOr => 7
  | .bitXor => 8
  | .bitAnd => 9
  | .shift => 10
  | .sum => 11
  | .product => 12

/-- A path as the grammar sees it : its steps, whether it begins with `::`, whether no step
has angle brackets, whether the last step is without arguments, and the expressions inside
the arguments. -/
structure PathForm where
  steps : List String
  absolute : Bool
  plain : Bool
  lastBare : Bool
  inner : List Expr

/-- A path and more steps. -/
def PathForm.join (p s : PathForm) : PathForm :=
  ⟨p.steps ++ s.steps, p.absolute, p.plain && s.plain, s.lastBare, p.inner ++ s.inner⟩

/-- A bound, with the expressions inside it, and whether the type at its end closes with a brace. -/
structure BoundForm where
  isTrait : Bool
  inner : List Expr
  braced : Bool

/-- What tells one kind of type from another. -/
inductive TypeShape where
  /-- A path, possibly one that begins with a type in angle brackets. -/
  | path (qualified : Bool) (p : PathForm)
  /-- Bounds, with or without `dyn`, and whether it is a single one without a `+` after it. -/
  | bounds (dyn single : Bool)
  | paren
  | other

/-- A type as the grammar sees it, with the expressions inside, and whether it closes with
a brace. -/
structure TypeForm where
  shape : TypeShape
  inner : List Expr
  braced : Bool

/-- A type of no special shape. -/
def TypeForm.plain (inner : List Expr) : TypeForm :=
  ⟨.other, inner, false⟩

/-- The single bound that a type is, if it can be one of several. -/
def TypeForm.asBound? (t : TypeForm) : Option BoundForm :=
  match t.shape with
  | .path false _ => some ⟨true, t.inner, t.braced⟩
  | .bounds false true => some ⟨true, t.inner, t.braced⟩
  | _ => none

/-- What tells one kind of pattern from another. -/
inductive PatternShape where
  | rest
  | openRange
  | path
  | constant
  | uninterpreted
  | other
  deriving DecidableEq

/-- A pattern as the grammar sees it, with the expressions inside. -/
structure PatternForm where
  shape : PatternShape
  inner : List Expr

/-- The rules that others refer to. -/
structure Grammar where
  /-- A type. The argument says whether it may go on with `+`. -/
  type : Bool → Reader TypeForm
  /-- A bound on a type. The arguments say whether it may capture lifetimes and be conditional. -/
  bound : Bool → Bool → Reader BoundForm
  /-- A pattern without alternatives. -/
  pattern : Reader PatternForm
  /-- An expression. The argument says whether a path may begin a struct literal. -/
  expr : Bool → Reader Expr
  /-- An expression without binary operators. -/
  unary : Bool → Reader Expr
  /-- Binary operators of at least the given precedence after an expression. -/
  climb : Bool → Precedence → Expr → Reader Expr
  /-- An `if` with its branches. -/
  conditional : Reader Expr
  /-- An expression that begins a statement or follows the arrow of an arm. -/
  leading : Reader Expr
  /-- The statements of a body, to its end. -/
  body : Reader (List Stmt)
  /-- An item after its attributes. -/
  item : Reader Item
  /-- Named fields in braces. -/
  fields : Reader Unit
  /-- The tree of a `use`. The argument says whether a branch may begin with `::`. -/
  useTree : Bool → Reader Unit

namespace Grammar

open Reader

/-- Nothing can be read. -/
def exhausted : Grammar where
  type _ := failure
  bound _ _ := failure
  pattern := failure
  expr _ := failure
  unary _ := failure
  climb _ _ _ := failure
  conditional := failure
  leading := failure
  body := failure
  item := failure
  fields := failure
  useTree _ := failure

/-! ## Plain paths and attributes -/

/-- A path without generic arguments, as in attributes and macro names. -/
def plainPath : Reader Unit := do
  let _ ← punct? "::"
  loop step ()
where
  step (_ : Unit) : Reader (Unit ⊕ Unit) := do
    let ts ← ahead
    require (atPathWord ts || atWord "Self" ts)
    let _ ← anyName
    if ← punct? "::" then return .inl ()
    return .inr ()

variable (g : Grammar)

/-- The value of an attribute : a literal that ends it, or an expression without attributes of
its own. -/
def attrValue : Reader Expr := do
  let ts ← ahead
  match literalAhead? ts with
  | some (_, []) => set ([] : List Token); return .literal
  | _ =>
    require (!(atPunct "#" ts && atGroup .bracket (skipOne ts)))
    g.expr true

/-- The content of an attribute, with its value if it has one. -/
def attrContent : Reader (List Expr) := do
  if !(← word? "unsafe") then plainPath
  let ts ← ahead
  if atSomeGroup ts then
    let _ ← someGroup
    return []
  if ← punct? "=" then return [← attrValue g]
  return []

/-- Attributes in front of something, with their values. -/
def outerAttrs : Reader (List Expr) := do
  let values ← many (atPunct "#") do
    punct "#"
    inside .bracket (attrContent g)
  return values.flatten

/-- Attributes at the beginning of what they describe, with their values. -/
def innerAttrs : Reader (List Expr) := do
  let values ← many (fun ts => atPunct "#" ts && atPunct "!" (skipOne ts)) do
    punct "#"
    punct "!"
    inside .bracket (attrContent g)
  return values.flatten

/-! ## Macros and blocks -/

/-- The arguments of a macro, if the whole of its body is a list of expressions. -/
def macroArgs (content : List Token) : List Expr :=
  (whole (commaList (g.expr true)) content).getD []

/-- The rest of a macro call, from its brackets on. -/
def macroRest : Reader Expr := do
  let (d, content) ← someGroup
  return .macroCall (d = .brace) (g.macroArgs content)

/-- A braced body. -/
def braced : Reader (List Stmt) :=
  inside .brace g.body

/-- A braced body that may begin with attributes. -/
def bracedWithAttrs : Reader (List Expr × List Stmt) :=
  inside .brace do
    let attrs ← innerAttrs g
    return (attrs, ← g.body)

/-- A braced body as an expression. -/
def blockExpr (kind : BlockKind) : Reader Expr := do
  let (attrs, body) ← bracedWithAttrs g
  return (Expr.block kind body).withAttrs attrs

end Grammar

end CallAtlas.Code
