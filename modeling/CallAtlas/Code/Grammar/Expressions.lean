import CallAtlas.Code.Grammar.Patterns

/-!
# Expressions

Operators are read by precedence climbing. Where a block follows, as after `if` or `while`, a path
does not begin a struct literal. An expression that begins a statement and ends in a block, such as
`if` or `match`, is complete there unless a method call or `?` follows.
-/

namespace CallAtlas.Code.Grammar

open Reader

variable (g : Grammar)

/-! ## Operators -/

/-- The binary operators as they are written. A longer one comes before one that begins it. -/
def operators : List (String × BinaryOp) :=
  [("+=", .assign), ("-=", .assign), ("*=", .assign), ("/=", .assign), ("%=", .assign),
    ("^=", .assign), ("&=", .assign), ("|=", .assign), ("<<=", .assign), (">>=", .assign),
    ("&&", .and), ("||", .or), ("<<", .shift), (">>", .shift), ("==", .compare), ("<=", .compare),
    ("!=", .compare), (">=", .compare), ("+", .sum), ("-", .sum), ("*", .product), ("/", .product),
    ("%", .product), ("^", .bitXor), ("&", .bitAnd), ("|", .bitOr), ("<", .compare),
    (">", .compare)]

/-- The binary operator that comes next. -/
def operatorAhead? (ts : List Token) : Option (String × BinaryOp) :=
  operators.find? fun (text, _) => atPunct text ts

/-- Whether an assignment comes next. -/
def atAssign (ts : List Token) : Bool :=
  atPunct "=" ts && !atPunct "=>" ts

/-- The precedence of what comes next. -/
def precedenceAhead (ts : List Token) : Precedence :=
  match operatorAhead? ts with
  | some (_, op) => op.precedence
  | none =>
    if atAssign ts then .assign
    else if atPunct ".." ts then .range
    else if atWord "as" ts then .cast
    else .lowest

/-- Whether an expression is a range. -/
def isRange (e : Expr) : Bool :=
  match e.bare with
  | .range .. => true
  | _ => false

/-- Whether an expression is a comparison. -/
def isComparison (e : Expr) : Bool :=
  match e.bare with
  | .binary .compare _ _ => true
  | _ => false

/-- The right operand of an operator : a unary expression and the operators that bind tighter. -/
def rightOperand (allowStruct : Bool) (p : Precedence) : Reader Expr := do
  loop step (← g.unary allowStruct)
where
  step (e : Expr) : Reader (Expr ⊕ Expr) := do
    let ts ← ahead
    let next := precedenceAhead ts
    if next > p || (next = p && p = .assign) then
      let e ← g.climb allowStruct next e
      if (← ahead).length = ts.length then return .inr e
      return .inl e
    return .inr e

/-- Whether a range without an upper bound ends here. -/
def atRangeEnd (allowStruct : Bool) (ts : List Token) : Bool :=
  ts.isEmpty || atPunct "," ts || atPunct ";" ts || (atPunct "." ts && !atPunct ".." ts) ||
    atPunct "?" ts || atPunct "=>" ts || (!allowStruct && atGroup .brace ts) || atPunct "=" ts ||
    atPunct "+" ts || atPunct "/" ts || atPunct "%" ts || atPunct "^" ts || atPunct ">" ts ||
    atPunct "<=" ts || atPunct "!=" ts || atPunct "-=" ts || atPunct "*=" ts || atPunct "&=" ts ||
    atPunct "|=" ts || atPunct "<<=" ts || atWord "as" ts

/-- The dots of a range and its upper bound. -/
def rangeEnd (allowStruct : Bool) : Reader (Option Expr) := do
  let closed ← rangeDots false
  if !closed && atRangeEnd allowStruct (← ahead) then return none
  return some (← rightOperand g allowStruct .range)

/-- What may not follow a cast without parentheses. -/
def atCastSuffix (ts : List Token) : Bool :=
  (atPunct "." ts && !atPunct ".." ts) || atPunct "?" ts || atGroup .bracket ts || atGroup .paren ts

/-- Binary operators of at least precedence `base` after an expression. A range takes no operator,
and comparisons do not chain. -/
def climbRule (allowStruct : Bool) (base : Precedence) (lhs : Expr) : Reader Expr :=
  loop step lhs
where
  step (lhs : Expr) : Reader (Expr ⊕ Expr) := do
    if isRange lhs then return .inr lhs
    let ts ← ahead
    match operatorAhead? ts with
    | some (text, op) =>
      if op.precedence < base then return .inr lhs
      require (!(op = .compare && isComparison lhs))
      punct text
      return .inl (.binary op lhs (← rightOperand g allowStruct op.precedence))
    | none =>
      if Precedence.assign ≥ base && atAssign ts then
        punct "="
        return .inl (.binary .assign lhs (← rightOperand g allowStruct .assign))
      else if Precedence.range ≥ base && atPunct ".." ts then
        return .inl (.range (some lhs) (← rangeEnd g allowStruct))
      else if Precedence.cast ≥ base && atWord "as" ts then
        word "as"
        let t ← g.type false
        require (!atCastSuffix (← ahead))
        return .inl (.cast lhs t.inner t.braced)
      else return .inr lhs

/-! ## Suffixes -/

/-- The parts of a number after a dot, as in `pair.0.1`, and whether a dot ends it. -/
def tupleIndexes? (text : String) : Option (Nat × Bool) :=
  let parts := text.splitOn "."
  let trailing := parts.getLast? = some ""
  let parts := if trailing then parts.dropLast else parts
  if parts.all isIndex then some (parts.length, trailing) else none
where
  isIndex (part : String) : Bool :=
    match whole member [.literal (.int part)] with
    | some named => !named && part.toList.all (fun c => c.isDigit || c = '_')
    | none => false

/-- Wrap an expression in field accesses. -/
def fieldAccesses : Nat → Expr → Expr
  | 0, e => e
  | n + 1, e => fieldAccesses n (.unary .field e)

/-- Arguments in parentheses. -/
def arguments : Reader (List Expr) :=
  inside .paren (commaList (g.expr true))

/-- A field or a method after a dot. -/
def memberAccess (e : Expr) : Reader Expr := do
  if ← word? "await" then return .unary .await e
  let ts ← ahead
  let named ← member
  let method ← pure (match ts with | .ident n :: _ => n | _ => "")
  let turbofish ←
    if named && atPunct "::" (← ahead) then do
      punct "::"
      let _ ← angleArgs g
      pure true
    else pure false
  if named && (turbofish || atGroup .paren (← ahead)) then
    return .methodCall e method (← arguments g)
  return .unary .field e

/-- Calls, fields, indexes and `?` after an expression. -/
def suffixes (e : Expr) : Reader Expr :=
  loop step e
where
  step (e : Expr) : Reader (Expr ⊕ Expr) := do
    let ts ← ahead
    if atGroup .paren ts then return .inl (.call e (← arguments g))
    else if atPunct "." ts && !atPunct ".." ts && !isRange e then
      punct "."
      match ← ahead with
      | .literal (.float text) :: rest =>
        match tupleIndexes? text with
        | none => failure
        | some (n, trailing) =>
          set rest
          if trailing then return .inl (← memberAccess g (fieldAccesses n e))
          return .inl (fieldAccesses n e)
      | _ => return .inl (← memberAccess g e)
    else if atGroup .bracket ts then
      return .inl (.index e (← inside .bracket (g.expr true)))
    else if atPunct "?" ts && !isRange e then
      punct "?"
      return .inl (.unary .try e)
    else return .inr e

/-! ## Atoms -/

/-- The fields of a struct literal, and what fills the others. -/
def structFields : Reader (List Expr × Option Expr) :=
  loop step []
where
  step (acc : List Expr) : Reader (List Expr ⊕ (List Expr × Option Expr)) := do
    if ← atEnd then return .inr (acc, none)
    if ← punct? ".." then
      if ← atEnd then return .inr (acc, none)
      let base ← g.expr true
      require (← atEnd)
      return .inr (acc, some base)
    let _ ← g.outerAttrs
    let ts ← ahead
    let named ← member
    let value ←
      if atPunct ":" (← ahead) || !named then do
        punct ":"
        g.expr true
      else pure (match ts with | .ident n :: _ => .path [n] | _ => .hole)
    let acc := acc ++ [value]
    if ← atEnd then return .inr (acc, none)
    punct ","
    return .inl acc

/-- A path, a macro call or a struct literal. -/
def pathExpr (allowStruct : Bool) : Reader Expr := do
  let (self, p) ← qualifiedPath g true
  let ts ← ahead
  if self.isNone && atPunct "!" ts && !atPunct "!=" ts && p.plain then
    punct "!"
    return ← g.macroRest
  if allowStruct && atGroup .brace ts then
    let (fs, base) ← inside .brace (structFields g)
    return .struct (p.steps.getLastD "") fs base
  return .path p.steps

/-- A parenthesised expression or a tuple. -/
def parenExpr : Reader Expr :=
  inside .paren do
    if ← atEnd then return .tuple []
    let first ← g.expr true
    if ← atEnd then return .unary .paren first
    punct ","
    return .tuple (first :: (← commaList (g.expr true)))

/-- An array, by its elements or by one element and a length. -/
def arrayExpr : Reader Expr :=
  inside .bracket do
    if ← atEnd then return .array []
    let first ← g.expr true
    if ← atEnd then return .array [first]
    if ← punct? ";" then return .repeated first (← g.expr true)
    punct ","
    return .array (first :: (← commaList (g.expr true)))

/-- Whether `for` begins generic parameters and not a loop. -/
def atClosureBinder (ts : List Token) : Bool :=
  atWord "for" ts && atGenerics (skipOne ts)

/-- The expressions inside a parameter of a closure. Without a type after it, a constant loses the
attributes inside it to those before it, and a path and a form without a meaning lose both. -/
def closureParam : Reader (List Expr) := do
  let attrs ← g.outerAttrs
  let p ← g.pattern
  if ← punct? ":" then return attrs ++ p.inner ++ (← g.type true).inner
  match p.shape with
  | .path => return p.inner
  | .uninterpreted => return p.inner
  | .constant => return attrs ++ p.inner.map (·.bare)
  | _ => return attrs ++ p.inner

/-- A closure. With a result type its body is a block. -/
def closureExpr (allowStruct : Bool) : Reader Expr := do
  let introduced ← binder? g
  let _ ← word? "const"
  let _ ← word? "static"
  let _ ← word? "async"
  let _ ← word? "move"
  punct "|"
  let params ← separated (atPunct "|") "," (closureParam g)
  punct "|"
  let front := introduced.getD [] ++ params.flatten
  match ← resultType g true with
  | some t => return .closure (front ++ t.inner) (.block .plain (← g.braced))
  | none => return .closure front (← g.expr allowStruct)

/-- Whether an expression comes next, so that a `return` has a value. -/
def atExpr (ts : List Token) : Bool :=
  (atAnyName ts && !atWord "as" ts) || atGroup .paren ts || atGroup .bracket ts ||
    atGroup .brace ts || atLiteral ts || (atPunct "!" ts && !atPunct "!=" ts) ||
    (atPunct "-" ts && !atPunct "-=" ts && !atPunct "->" ts) ||
    (atPunct "*" ts && !atPunct "*=" ts) || (atPunct "|" ts && !atPunct "|=" ts) ||
    (atPunct "&" ts && !atPunct "&=" ts) || atPunct ".." ts ||
    (atPunct "<" ts && !atPunct "<=" ts && !atPunct "<<=" ts) || atPunct "::" ts ||
    atLifetime ts || atPunct "#" ts

/-- A `break`, with a label and a value. A brace begins no value where a block has to follow. -/
def breakExpr (allowStruct : Bool) : Reader Expr := do
  word "break"
  if ← lifetime? then require (!atPunct ":" (← ahead))
  let ts ← ahead
  if atExpr ts && (allowStruct || !atGroup .brace ts) then
    return .jump .break (some (← g.expr true))
  return .jump .break none

/-- A condition that matches a pattern. -/
def letExpr (allowStruct : Bool) : Reader Expr := do
  word "let"
  let p ← alternatives g
  punct "="
  let lhs ← g.unary allowStruct
  return .letCondition p.inner (← g.climb allowStruct .compare lhs)

/-- An `if` with its branches. -/
def conditionalRule : Reader Expr := do
  word "if"
  let cond ← g.expr false
  let body ← g.braced
  if ← word? "else" then
    if atWord "if" (← ahead) then return .conditional cond body (some (← g.conditional))
    return .conditional cond body (some (.block .plain (← g.braced)))
  return .conditional cond body none

/-- A `while` loop. -/
def whileExpr : Reader Expr := do
  word "while"
  let cond ← g.expr false
  let (attrs, body) ← g.bracedWithAttrs
  return (Expr.whileLoop cond body).withAttrs attrs

/-- A `for` loop. -/
def forExpr : Reader Expr := do
  word "for"
  let p ← alternatives g
  word "in"
  let e ← g.expr false
  let (attrs, body) ← g.bracedWithAttrs
  return (Expr.forLoop p.inner e body).withAttrs attrs

/-- A block or a loop after a label. -/
def labeledExpr : Reader Expr := do
  lifetime
  punct ":"
  let ts ← ahead
  if atWord "while" ts then whileExpr g
  else if atWord "for" ts then forExpr g
  else if ← word? "loop" then g.blockExpr .loop
  else g.blockExpr .plain

/-- Whether an expression is complete without a semicolon, or a comma after an arm. -/
def isBlockLike (e : Expr) : Bool :=
  match e.bare with
  | .conditional .. => true
  | .select .. => true
  | .whileLoop .. => true
  | .forLoop .. => true
  | .block .async _ => false
  | .block .. => true
  | _ => false

/-- An arm of a `match`. A comma may be left out after a block and after the last arm. -/
def arm : Reader Arm := do
  let attrs ← g.outerAttrs
  let p ← alternatives g
  let guard ←
    if ← word? "if" then do
      let e ← g.expr true
      pure (some e)
    else pure none
  punct "=>"
  let body ← g.leading
  let comma ← punct? ","
  require (comma || isBlockLike body || (← atEnd))
  return .mk attrs p.inner guard body

/-- A `match`. -/
def selectExpr : Reader Expr := do
  word "match"
  let e ← g.expr false
  let (attrs, arms) ← inside .brace do
    let attrs ← g.innerAttrs
    return (attrs, ← many (fun ts => !ts.isEmpty) (arm g))
  return (Expr.select e arms).withAttrs attrs

/-- An expression that begins a statement or follows the arrow of an arm. -/
def leadingRule : Reader Expr := do
  let attrs ← g.outerAttrs
  let ts ← ahead
  let next := skipOne ts
  let e ←
    if atWord "if" ts then conditionalRule g
    else if atWord "while" ts then whileExpr g
    else if atWord "for" ts && !atClosureBinder ts then forExpr g
    else if ← word? "loop" then g.blockExpr .loop
    else if atWord "match" ts then selectExpr g
    else if atWord "try" ts && atGroup .brace next then do
      word "try"
      pure (.block .try (← g.braced))
    else if ← word? "unsafe" then g.blockExpr .unguarded
    else if atWord "const" ts && atGroup .brace next then do
      word "const"
      g.blockExpr .constant
    else if atGroup .brace ts then g.blockExpr .plain
    else if atLifetime ts then labeledExpr g
    else g.unary true
  if !isBlockLike e then return ← climbRule g true .lowest (e.withAttrs attrs)
  let ts ← ahead
  if (atPunct "." ts && !atPunct ".." ts) || atPunct "?" ts then
    let e ← suffixes g e
    return ← climbRule g true .lowest (e.withAttrs attrs)
  return e.withAttrs attrs

/-- An expression without operators or suffixes. -/
def atom (allowStruct : Bool) : Reader Expr := do
  let ts ← ahead
  let next := skipOne ts
  if atLiteral ts then
    let _ ← literal
    return .literal
  else if atWord "async" ts &&
      (atGroup .brace next || (atWord "move" next && atGroup .brace (skipTwo ts))) then
    word "async"
    let _ ← word? "move"
    return .block .async (← g.braced)
  else if atWord "try" ts && atGroup .brace next then
    word "try"
    return .block .try (← g.braced)
  else if atPunct "|" ts || atWord "move" ts || atClosureBinder ts ||
      (atWord "const" ts && !atGroup .brace next) || atWord "static" ts ||
      (atWord "async" ts && (atPunct "|" next || atWord "move" next)) then
    closureExpr g allowStruct
  else if atWord "builtin" ts && atPunct "#" next then
    builtinForm
    return .uninterpreted false
  else if atName ts || atPunct "::" ts || atPunct "<" ts ||
      atAnyWord ["self", "Self", "super", "crate"] ts ||
      (atWord "try" ts && (atPunct "!" next || atPunct "::" next)) then
    pathExpr g allowStruct
  else if atGroup .paren ts then parenExpr g
  else if atWord "break" ts then breakExpr g allowStruct
  else if ← word? "continue" then
    let _ ← lifetime?
    return .jump .continue none
  else if ← word? "return" then
    if atExpr (← ahead) then return .jump .return (some (← g.expr true))
    return .jump .return none
  else if ← word? "become" then
    let (_, closesWithBrace) ← withBraceEnd (g.expr true)
    return .uninterpreted closesWithBrace
  else if atGroup .bracket ts then arrayExpr g
  else if atWord "let" ts then letExpr g allowStruct
  else if atWord "if" ts then conditionalRule g
  else if atWord "while" ts then whileExpr g
  else if atWord "for" ts then forExpr g
  else if ← word? "loop" then g.blockExpr .loop
  else if atWord "match" ts then selectExpr g
  else if ← word? "yield" then
    if atExpr (← ahead) then return .jump .yield (some (← g.expr true))
    return .jump .yield none
  else if ← word? "unsafe" then g.blockExpr .unguarded
  else if ← word? "const" then g.blockExpr .constant
  else if atGroup .brace ts then g.blockExpr .plain
  else if atPunct ".." ts then return .range none (← rangeEnd g allowStruct)
  else if ← word? "_" then return .hole
  else if atLifetime ts then labeledExpr g
  else failure

/-- An expression without binary operators. Attributes may not stand before a range that begins with
its dots. -/
def unaryRule (allowStruct : Bool) : Reader Expr := do
  let before ← ahead
  let attrs ← g.outerAttrs
  let after ← ahead
  let applied (op : UnaryOp) : Reader Expr := do
    return (Expr.unary op (← g.unary allowStruct)).withAttrs attrs
  if ← punct? "&" then
    let ts ← ahead
    let raw := atWord "raw" ts && atAnyWord ["mut", "const"] (skipOne ts)
    if raw then word "raw"
    let mutable ← word? "mut"
    if raw && !mutable then word "const"
    applied (if raw then .rawAddress else .reference)
  else if ← punct? "*" then applied .deref
  else if ← punct? "!" then applied .not
  else if ← punct? "-" then applied .neg
  else
    let e ← suffixes g (← atom g allowStruct)
    match e with
    | .uninterpreted _ => return e
    | .range .. =>
      require (before.length = after.length)
      return e
    | _ => return e.withAttrs attrs

/-- An expression. -/
def exprRule (allowStruct : Bool) : Reader Expr := do
  climbRule g allowStruct .lowest (← unaryRule g allowStruct)

end CallAtlas.Code.Grammar
