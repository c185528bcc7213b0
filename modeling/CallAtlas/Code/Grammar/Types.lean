import CallAtlas.Code.Grammar.Basic

/-!
# Types, paths and bounds

A type is read for the expressions inside it, and for the few facts that decide what may follow it.
Angle brackets after a name open generic arguments in a type. In an expression they do so only after
`::`, since `a < b` compares.
-/

namespace CallAtlas.Code.Grammar

open Reader

variable (g : Grammar)

/-! ## Generic arguments -/

/-- A generic argument or default that is a value : a literal, a name or a block. -/
def constArgument : Reader Expr := do
  let ts ← ahead
  if atLiteral ts then
    let _ ← literal
    return .literal
  if atName ts then return .path [← name]
  g.blockExpr .plain

/-- Whether generic parameters come next, and not a path that begins with a type. -/
def atGenerics (ts : List Token) : Bool :=
  let second := skipOne ts
  let third := skipOne second
  atPunct "<" ts &&
    (atPunct ">" second || atPunct "#" second ||
      ((atLifetime second || atName second) &&
        (atPunct ">" third || atPunct "," third || (atPunct ":" third && !atPunct "::" third) ||
          atPunct "=" third)) ||
      atWord "const" second)

/-- A parameter after the attributes before it, with the expressions inside it : a lifetime, a
constant or a type. -/
def genericParam : Reader (List Expr) := do
  let stop (ts : List Token) := ts.isEmpty || atPunct "," ts || atPunct ">" ts
  if ← lifetime? then
    if ← punct? ":" then
      let _ ← joined stop "+" lifetime
    return []
  if ← word? "const" then
    let _ ← name
    punct ":"
    let t ← g.type true
    if ← punct? "=" then return t.inner ++ [← constArgument g]
    return t.inner
  let _ ← name
  let bounds ←
    if ← punct? ":" then joined (fun ts => stop ts || atPunct "=" ts) "+" (g.bound false true)
    else pure []
  let inner := bounds.flatMap (·.inner)
  if ← punct? "=" then return inner ++ (← g.type true).inner
  return inner

/-- Parameters introduced by `for<…>`, with the expressions inside them. -/
def binder : Reader (List Expr) := do
  word "for"
  punct "<"
  let params ← separated (atPunct ">") "," do
    let values ← g.outerAttrs
    return values ++ (← genericParam g)
  punct ">"
  return params.flatten

/-- Parameters introduced by `for<…>`, if it comes next. -/
def binder? : Reader (Option (List Expr)) := do
  if atWord "for" (← ahead) then return some (← binder g)
  return none

/-- The captured parameters `use<…>` of a bound. -/
def captures : Reader Unit := do
  word "use"
  punct "<"
  let _ ← separated (atPunct ">") "," do
    if !(← lifetime?) then
      let _ ← nameOr ["Self"]
  punct ">"

/-- The result type of a function, if it is given. -/
def resultType (plus : Bool) : Reader (Option TypeForm) := do
  if ← punct? "->" then return some (← g.type plus)
  return none

/-- The parameters and the result of `Fn(A) -> B`. -/
def callArgs : Reader (List Expr × Option TypeForm) := do
  let inputs ← inside .paren (commaList (g.type true))
  let output ← resultType g false
  return (inputs.flatMap (·.inner) ++ (output.map (·.inner)).getD [], output)

/-! ## Paths -/

/-- Arguments in angle brackets, each with the expressions inside it. -/
def angleArgs : Reader (List (List Expr)) := do
  punct "<"
  let args ← separated (atPunct ">") "," argument
  punct ">"
  return args
where
  /-- One argument : a lifetime, a value, a type, or a statement on an associated item. -/
  argument : Reader (List Expr) := do
    let ts ← ahead
    if atLifetime ts && !atPunct "+" (skipOne ts) then
      lifetime
      return []
    if atLiteral ts || atGroup .brace ts then return [← constArgument g]
    let t ← g.type true
    match t.shape with
    | .path false p =>
      if !p.absolute && p.steps.length = 1 then
        if ← punct? "=" then
          let ts ← ahead
          if atLiteral ts || atGroup .brace ts then return t.inner ++ [← constArgument g]
          return t.inner ++ (← g.type true).inner
        if ← punct? ":" then
          let bounds ← joined (fun ts => atPunct "," ts || atPunct ">" ts) "+" (g.bound false true)
          return t.inner ++ bounds.flatMap (·.inner)
      return t.inner
    | _ => return t.inner

/-- One step of a path. -/
def segment (inExpr : Bool) : Reader PathForm := do
  if atAnyWord ["super", "self", "crate", "try"] (← ahead) then
    return ⟨[← anyName], false, true, true, []⟩
  let n ← nameOr ["Self"]
  let ts ← ahead
  if (!inExpr && atPunct "<" ts && !atPunct "<=" ts && !atPunct "<<=" ts) ||
      (atPunct "::" ts && atPunct "<" (skipTwo ts)) then
    let _ ← punct? "::"
    let args ← angleArgs g
    return ⟨[n], false, false, args.isEmpty, args.flatten⟩
  return ⟨[n], false, true, true, []⟩

/-- The further steps of a path. -/
def moreSegments (inExpr : Bool) (p : PathForm) : Reader PathForm :=
  loop step p
where
  step (p : PathForm) : Reader (PathForm ⊕ PathForm) := do
    let ts ← ahead
    if atPunct "::" ts && !atGroup .paren (skipTwo ts) then
      punct "::"
      return .inl (p.join (← segment g inExpr))
    return .inr p

/-- A path. -/
def path (inExpr : Bool) : Reader PathForm := do
  let absolute ← punct? "::"
  let p ← segment g inExpr
  moreSegments g inExpr { p with absolute }

/-- Whether parenthesised arguments may follow the last step. -/
def atCallArgs (p : PathForm) (ts : List Token) : Bool :=
  p.lastBare &&
    (atGroup .paren ts || (atPunct "::" ts && atGroup .paren (skipTwo ts)))

/-! ## Bounds -/

/-- A trait as a bound : parameters introduced for it, or a `?` in their place, and a path, which
may have parenthesised arguments. The first component is false when the trait is only
conditionally there. -/
def traitBound (allowConst : Bool) : Reader (Bool × BoundForm) := do
  let introduced ← binder? g
  let ts ← ahead
  let conditional := atGroup .bracket ts
  let constant := atWord "const" ts
  if conditional then inside .bracket (word "const")
  else if constant then word "const"
  require (allowConst || !(conditional || constant))
  let relaxed ← punct? "?"
  require (!(relaxed && introduced.isSome))
  let p ← path g false
  let interpreted := !(conditional || constant)
  let inner := introduced.getD [] ++ p.inner
  if atCallArgs p (← ahead) then
    let _ ← punct? "::"
    let (args, output) ← callArgs g
    return (interpreted, ⟨true, inner ++ args, output.any (·.braced)⟩)
  return (interpreted, ⟨true, inner, false⟩)

/-- A bound. Nothing inside a conditional one counts. -/
def boundRule (allowCapture allowConst : Bool) : Reader BoundForm := do
  let ts ← ahead
  if atLifetime ts then
    lifetime
    return ⟨false, [], false⟩
  if atWord "use" ts then
    captures
    require allowCapture
    return ⟨false, [], false⟩
  let ((interpreted, b), closesWithBrace) ←
    withBraceEnd (if atGroup .paren ts then inside .paren (traitBound g allowConst)
      else traitBound g allowConst)
  return if interpreted then b else ⟨true, [], closesWithBrace⟩

/-- Bounds joined by `+`, and whether a `+` ends them. -/
def bounds (plus allowCapture allowConst : Bool) : Reader (List BoundForm × Bool) :=
  loop step []
where
  step (acc : List BoundForm) : Reader (List BoundForm ⊕ (List BoundForm × Bool)) := do
    let acc := acc ++ [← g.bound allowCapture allowConst]
    if !plus || !(← punct? "+") then return .inr (acc, false)
    let ts ← ahead
    if atAnyName ts || atPunct "::" ts || atPunct "?" ts || atLifetime ts || atGroup .paren ts ||
        (allowConst && (atGroup .bracket ts || atWord "const" ts)) then
      return .inl acc
    return .inr (acc, true)

/-- Bounds with a trait among them, and whether a `+` ends them. -/
def traitBounds (plus allowCapture allowConst : Bool) : Reader (List BoundForm × Bool) := do
  let (bs, trailing) ← bounds g plus allowCapture allowConst
  require (bs.any (·.isTrait))
  return (bs, trailing)

/-- The expressions inside bounds. -/
def innerOf (bs : List BoundForm) : List Expr :=
  bs.flatMap (·.inner)

/-- Whether bounds close with a brace. -/
def closeWithBrace (bs : List BoundForm) : Bool :=
  bs.getLast?.any (·.braced)

/-! ## Qualified paths -/

/-- A path that may begin with a type in angle brackets, as in `<T as Trait>::name`. The first
component holds the expressions inside that type. -/
def qualifiedPath (inExpr : Bool) : Reader (Option (List Expr) × PathForm) := do
  if ← punct? "<" then
    let self ← g.type true
    let front ←
      if ← word? "as" then path g false
      else pure ⟨[], true, true, true, []⟩
    punct ">"
    punct "::"
    let p ← loop step front
    return (some self.inner, p)
  return (none, ← path g inExpr)
where
  step (p : PathForm) : Reader (PathForm ⊕ PathForm) := do
    let p := p.join (← segment g inExpr)
    if ← punct? "::" then return .inl p
    return .inr p

/-! ## Types -/

/-- A parameter of a function type. Only the first may be `self`. -/
def functionTypeParam (allowSelf : Bool) : Reader (List Expr) := do
  let attrs ← g.outerAttrs
  let ts ← ahead
  let mutSelf := allowSelf && atWord "mut" ts && atWord "self" (skipOne ts)
  if mutSelf then word "mut"
  let ts ← ahead
  let self := allowSelf && atWord "self" ts
  let named := (atName ts || atWord "_" ts || self) &&
    atPunct ":" (skipOne ts) && !atPunct "::" (skipOne ts)
  if named then
    let _ ← anyName
    punct ":"
  if mutSelf && !named then
    word "self"
    return attrs
  let ts ← ahead
  if allowSelf && !(self && named) && atWord "mut" ts && atWord "self" (skipOne ts) then
    word "mut"
    word "self"
    return attrs
  let t ← g.type true
  return attrs ++ (if mutSelf then [] else t.inner)

/-- The parameters of a function type. -/
def functionTypeParams : Reader (List Expr) :=
  loop step ([], true)
where
  step (state : List Expr × Bool) : Reader ((List Expr × Bool) ⊕ List Expr) := do
    let (acc, first) := state
    if ← atEnd then return .inr acc
    let attrs ← g.outerAttrs
    let ts ← ahead
    if atPunct "..." ts ||
        ((atName ts || atWord "_" ts) && atPunct ":" (skipOne ts) &&
          atPunct "..." (skipTwo ts)) then
      if !atPunct "..." ts then
        let _ ← anyName
        punct ":"
      punct "..."
      let _ ← punct? ","
      require (← atEnd)
      return .inr (acc ++ attrs)
    let acc := acc ++ attrs ++ (← functionTypeParam g first)
    if ← atEnd then return .inr acc
    punct ","
    return .inl (acc, false)

/-- The calling convention of a function. -/
def convention? : Reader Unit := do
  if ← word? "extern" then
    if atString (← ahead) then string

/-- A function type, from its qualifiers on. -/
def functionType : Reader TypeForm := do
  let _ ← word? "unsafe"
  convention?
  word "fn"
  let params ← inside .paren (functionTypeParams g)
  let output ← resultType g false
  return ⟨.other, params ++ (output.map (·.inner)).getD [], output.any (·.braced)⟩

/-- Bounds after a first one, and whether a `+` ends them. -/
def moreBounds (plus : Bool) : Reader (List BoundForm × Bool) :=
  loop step []
where
  step (acc : List BoundForm) : Reader (List BoundForm ⊕ (List BoundForm × Bool)) := do
    if !plus || !(← punct? "+") then return .inr (acc, false)
    let ts ← ahead
    if atAnyName ts || atPunct "::" ts || atPunct "?" ts || atLifetime ts || atGroup .paren ts then
      return .inl (acc ++ [← g.bound false false])
    return .inr (acc, true)

/-- Bounds after a parenthesised first one. Each `+` needs another. -/
def moreParenBounds : Reader (List BoundForm) :=
  loop step []
where
  step (acc : List BoundForm) : Reader (List BoundForm ⊕ List BoundForm) := do
    if ← punct? "+" then return .inl (acc ++ [← g.bound false false])
    return .inr acc

/-- What stands between parentheses in a type. -/
inductive ParenContent where
  | bound (b : BoundForm)
  | object (inner : List Expr)
  | tuple (inner : List Expr)
  | single (t : TypeForm)

/-- The inside of a parenthesised type. -/
def parenContent : Reader ParenContent := do
  let ts ← ahead
  if ts.isEmpty then return .tuple []
  if atLifetime ts then return .object (innerOf (← traitBounds g true false false).1)
  if atPunct "?" ts then return .bound (← traitBound g false).2
  let first ← g.type true
  if ← punct? "," then
    let more ← commaList (g.type true)
    return .tuple (first.inner ++ more.flatMap (·.inner))
  return .single first

/-- A parenthesised type. A parenthesised trait can be the first of several bounds. -/
def parenType (plus : Bool) : Reader TypeForm := do
  match ← inside .paren (parenContent g) with
  | .tuple inner => return .plain inner
  | .object inner => return ⟨.paren, inner, false⟩
  | .bound b =>
    let bs := b :: (← moreParenBounds g)
    return ⟨.bounds false (bs.length = 1), innerOf bs, closeWithBrace bs⟩
  | .single first =>
    match first.asBound? with
    | some b =>
      if plus && atPunct "+" (← ahead) then
        let bs := b :: (← moreParenBounds g)
        return ⟨.bounds false false, innerOf bs, closeWithBrace bs⟩
      return ⟨.paren, first.inner, false⟩
    | none => return ⟨.paren, first.inner, false⟩

/-- A type that begins with a path, possibly after parameters introduced for it. -/
def namedType (plus : Bool) (introduced : Option (List Expr)) : Reader TypeForm := do
  let (self, p) ← qualifiedPath g false
  if let some self := self then return ⟨.path true p, self ++ p.inner, false⟩
  let ts ← ahead
  if atPunct "!" ts && !atPunct "!=" ts && p.plain then
    punct "!"
    let (d, content) ← someGroup
    let braced : Bool := d = .brace
    return ⟨.other, [.macroCall braced (g.macroArgs content)], braced⟩
  if introduced.isSome || (plus && atPunct "+" ts) then
    let (more, trailing) ← moreBounds g plus
    return ⟨.bounds false (more.isEmpty && !trailing),
      introduced.getD [] ++ p.inner ++ innerOf more, closeWithBrace more⟩
  return ⟨.path false p, p.inner, false⟩

/-- A form of the compiler's own, as in `builtin # name(…)`. Its arguments have no meaning. -/
def builtinForm : Reader Unit := do
  word "builtin"
  punct "#"
  let _ ← name
  let _ ← group .paren

/-- A type. -/
def typeRule (plus : Bool) : Reader TypeForm := do
  let introduced ← binder? g
  let ts ← ahead
  require (introduced.isNone || atName ts ||
    atAnyWord ["fn", "unsafe", "extern", "super", "self", "Self", "crate"] ts)
  if atGroup .paren ts then parenType g plus
  else if atAnyWord ["fn", "unsafe", "extern"] ts then
    let t ← functionType g
    return { t with inner := introduced.getD [] ++ t.inner }
  else if atWord "builtin" ts && atPunct "#" (skipOne ts) then
    builtinForm
    return .plain []
  else if atName ts || atAnyWord ["super", "self", "Self", "crate"] ts || atPunct "::" ts ||
      atPunct "<" ts then
    namedType g plus introduced
  else if atWord "dyn" ts then
    word "dyn"
    let star ← punct? "*"
    let ((bs, trailing), closesWithBrace) ← withBraceEnd (traitBounds g plus false false)
    if star then return ⟨.other, [], closesWithBrace⟩
    return ⟨.bounds true (bs.length = 1 && !trailing), innerOf bs, closeWithBrace bs⟩
  else if atGroup .bracket ts then
    let inner ← inside .bracket do
      let elem ← g.type true
      if ← punct? ";" then return elem.inner ++ [← g.expr true]
      return elem.inner
    return .plain inner
  else if ← punct? "*" then
    if !(← word? "const") then word "mut"
    return { ← g.type false with shape := .other }
  else if ← punct? "&" then
    let _ ← lifetime?
    let _ ← word? "mut"
    return { ← g.type false with shape := .other }
  else if atPunct "!" ts && !atPunct "=" ts then
    punct "!"
    return .plain []
  else if ← word? "impl" then
    let (bs, _) ← traitBounds g plus true true
    return ⟨.other, innerOf bs, closeWithBrace bs⟩
  else if ← word? "_" then
    return .plain []
  else if atLifetime ts then
    let (bs, trailing) ← traitBounds g true false false
    return ⟨.bounds false (bs.length = 1 && !trailing), innerOf bs, closeWithBrace bs⟩
  else failure

end CallAtlas.Code.Grammar
