import CallAtlas.Code.Grammar.Types

/-!
# Patterns

A pattern is read for the expressions inside it : paths of several steps, bounds of ranges,
constants and macro arguments. A single name binds and mentions nothing, and neither does the path
of a struct or tuple pattern.
-/

namespace CallAtlas.Code.Grammar

open Reader

variable (g : Grammar)

/-- A pattern of no special shape. -/
def plainPattern (inner : List Expr) : PatternForm :=
  ⟨.other, inner⟩

/-- Whether the sequence is at an alternative : a bar that is not part of a longer operator. -/
def atBar (ts : List Token) : Bool :=
  atPunct "|" ts && !atPunct "||" ts && !atPunct "|=" ts

/-- A pattern that may have alternatives, and may begin with a bar. -/
def alternatives : Reader PatternForm := do
  let leading ← punct? "|"
  let first ← g.pattern
  if leading || atBar (← ahead) then
    let more ← many atBar do
      punct "|"
      g.pattern
    return plainPattern (first.inner ++ more.flatMap (·.inner))
  return first

/-- Comma-separated patterns to the end. -/
def patternList : Reader (List PatternForm) :=
  commaList (alternatives g)

/-- The member of a struct : a name or a number. -/
def member : Reader Bool := do
  let ts ← ahead
  if atName ts then
    let _ ← anyName
    return true
  match ts with
  | .literal (.int t) :: rest =>
    require (isIndex t)
    set rest
    return false
  | _ => failure
where
  /-- A position that fits 32 bits, in any base, without a suffix. -/
  isIndex (t : String) : Bool :=
    match t.toList with
    | '0' :: 'x' :: cs => fits 16 cs
    | '0' :: 'o' :: cs => fits 8 cs
    | '0' :: 'b' :: cs => fits 2 cs
    | cs => fits 10 cs
  fits (base : Nat) (cs : List Char) : Bool :=
    let digits := cs.filter (· ≠ '_')
    let value (c : Char) : Nat :=
      if c.isDigit then c.toNat - '0'.toNat
      else if 'a' ≤ c && c ≤ 'f' then c.toNat - 'a'.toNat + 10
      else if 'A' ≤ c && c ≤ 'F' then c.toNat - 'A'.toNat + 10
      else 16
    digits.all (fun c => value c < base) &&
      digits.foldl (fun n c => n * base + value c) 0 < 4294967296

/-- The dots of a range, and whether its end belongs to it. Patterns still know the form `...`. -/
def rangeDots (obsolete : Bool) : Reader Bool := do
  let ts ← ahead
  if atPunct "..=" ts then
    punct "..="
    return true
  if atPunct "..." ts then
    require obsolete
    punct "..."
    return true
  punct ".."
  return false

/-- A bound of a range pattern, unless the pattern ends here. -/
def rangeBound : Reader (Option Expr) := do
  let ts ← ahead
  if ts.isEmpty || atPunct "|" ts || atPunct "=" ts || (atPunct ":" ts && !atPunct "::" ts) ||
      atPunct "," ts || atPunct ";" ts || atWord "if" ts then
    return none
  if atLiteral ts then
    let _ ← literal
    return some .literal
  if atName ts || atPunct "::" ts || atPunct "<" ts ||
      atAnyWord ["self", "Self", "super", "crate"] ts then
    let (_, p) ← qualifiedPath g true
    return some (.path p.steps)
  word "const"
  return some (← g.blockExpr .constant)

/-- The rest of a range pattern after its lower bound. -/
def rangeRest (lo : Expr) : Reader PatternForm := do
  let closed ← rangeDots true
  let hi ← rangeBound g
  require (!(closed && hi.isNone))
  return ⟨if hi.isNone then .openRange else .other, [.range (some lo) hi]⟩

/-- A field of a struct pattern after its attributes. -/
def fieldPattern : Reader (List Expr) := do
  let boxed ← word? "box"
  let byRef ← word? "ref"
  let mutable ← word? "mut"
  if boxed || byRef || mutable then
    let _ ← name
    return []
  let named ← member
  if atPunct ":" (← ahead) || !named then
    punct ":"
    return (← alternatives g).inner
  return []

/-- The fields of a struct pattern. -/
def structPattern : Reader (List Expr) :=
  loop step []
where
  step (acc : List Expr) : Reader (List Expr ⊕ List Expr) := do
    if ← atEnd then return .inr acc
    let acc := acc ++ (← g.outerAttrs)
    if ← punct? ".." then
      require (← atEnd)
      return .inr acc
    let acc := acc ++ (← fieldPattern g)
    if ← atEnd then return .inr acc
    punct ","
    return .inl acc

/-- A pattern that begins with a path. -/
def pathPattern : Reader PatternForm := do
  let (self, p) ← qualifiedPath g true
  let ts ← ahead
  let front := self.getD [] ++ p.inner
  if self.isNone && atPunct "!" ts && !atPunct "!=" ts && p.plain then
    punct "!"
    return plainPattern [← g.macroRest]
  if atGroup .brace ts then
    return plainPattern (front ++ (← inside .brace (structPattern g)))
  if atGroup .paren ts then
    let ps ← inside .paren (patternList g)
    return plainPattern (front ++ ps.flatMap (·.inner))
  if atPunct ".." ts then return ← rangeRest g (.path p.steps)
  return ⟨.path, [.path p.steps]⟩

/-- A name, with a pattern after `@`. -/
def bindingPattern : Reader PatternForm := do
  let _ ← word? "ref"
  let _ ← word? "mut"
  let _ ← nameOr ["self"]
  if ← punct? "@" then return plainPattern (← g.pattern).inner
  return plainPattern []

/-- A literal or a constant, or a range that begins with one. -/
def literalPattern : Reader PatternForm := do
  match ← rangeBound g with
  | none => failure
  | some lo =>
    if atPunct ".." (← ahead) then rangeRest g lo
    else
      match lo with
      | .literal => return plainPattern []
      | .path steps => return ⟨.path, [.path steps]⟩
      | e => return ⟨.constant, [e]⟩

/-- A range without a lower bound, or the dots that stand for the rest. -/
def dotsPattern : Reader PatternForm := do
  let closed ← rangeDots false
  match ← rangeBound g with
  | some hi => return ⟨.openRange, [.range none (some hi)]⟩
  | none =>
    require (!closed)
    return ⟨.rest, []⟩

/-- A pattern without alternatives. -/
def patternRule : Reader PatternForm := do
  let ts ← ahead
  let next := skipOne ts
  if (atName ts && (atPunct "::" next || atPunct "!" next || atGroup .brace next ||
        atGroup .paren next || atPunct ".." next)) ||
      (atWord "self" ts && atPunct "::" next) || atPunct "::" ts || atPunct "<" ts ||
      atAnyWord ["Self", "super", "crate"] ts then
    pathPattern g
  else if ← word? "_" then return plainPattern []
  else if ← word? "box" then
    let _ ← g.pattern
    return ⟨.uninterpreted, []⟩
  else if atPunct "-" ts || atLiteral ts || atWord "const" ts then literalPattern g
  else if atAnyWord ["ref", "mut", "self"] ts || atName ts then bindingPattern g
  else if ← punct? "&" then
    let _ ← word? "mut"
    return plainPattern (← g.pattern).inner
  else if atGroup .paren ts then
    let ps ← inside .paren (patternList g)
    return plainPattern (ps.flatMap (·.inner))
  else if atGroup .bracket ts then
    let ps ← inside .bracket (patternList g)
    require (ps.all fun p => p.shape ≠ .openRange)
    return plainPattern (ps.flatMap (·.inner))
  else if atPunct ".." ts && !atPunct "..." ts then dotsPattern g
  else failure

end CallAtlas.Code.Grammar
