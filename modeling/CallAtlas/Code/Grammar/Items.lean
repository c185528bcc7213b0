import CallAtlas.Code.Grammar.Statements

/-!
# Items

An item is read for the names that it declares and the bodies of its functions. Some forms parse but
declare nothing : a function without a body outside a trait, a trait alias, an implementation that
is public or conditional.
-/

namespace CallAtlas.Code.Grammar

open Reader

variable (g : Grammar)

/-! ## Visibility, generics and signatures -/

/-- A visibility, and whether one is given. A group after `pub` belongs to it only if it names
a scope. -/
def visibility : Reader Bool := do
  if !(← word? "pub") then return false
  match ← ahead with
  | .group .paren [.ident w] :: rest =>
    if ["crate", "self", "super"].contains w then set rest
    return true
  | .group .paren (.ident "in" :: scope) :: rest =>
    require (whole plainPath scope).isSome
    set rest
    return true
  | _ => return true

/-- Generic parameters, if there are any, and whether there were. A parameter may be
left unnamed. -/
def generics : Reader Bool := do
  if !(← punct? "<") then return false
  let _ ← separated (atPunct ">") "," do
    let _ ← g.outerAttrs
    if !(← word? "_") then
      let _ ← genericParam g
  punct ">"
  return true

/-- Whether a list of conditions or of their bounds ends here. -/
def atWhereEnd (ts : List Token) : Bool :=
  ts.isEmpty || atGroup .brace ts || atPunct "," ts || atPunct ";" ts ||
    (atPunct ":" ts && !atPunct "::" ts) || atPunct "=" ts

/-- A condition of a `where` clause. -/
def wherePredicate : Reader Unit := do
  let ts ← ahead
  if atLifetime ts && atPunct ":" (skipOne ts) then
    lifetime
    punct ":"
    let _ ← joined (fun ts => atWhereEnd ts || atPunct ":" ts) "+" lifetime
  else
    let _ ← binder? g
    let _ ← g.type true
    punct ":"
    let _ ← joined atWhereEnd "+" (g.bound false true)

/-- A `where` clause, if there is one, and whether there was. It takes no generic parameters. -/
def whereClause : Reader Bool := do
  if !(← word? "where") then return false
  require (!atGenerics (← ahead))
  let _ ← joined atWhereEnd "," (wherePredicate g)
  return true

/-- Whether a function signature comes next. -/
def atSignature (allowSafe : Bool) (ts : List Token) : Bool :=
  let ts := dropWord "const" ts
  let ts := dropWord "async" ts
  let ts := if allowSafe && atWord "safe" ts then ts.drop 1 else dropWord "unsafe" ts
  let ts :=
    if atWord "extern" ts then
      let ts := ts.drop 1
      if atString ts then ts.drop 1 else ts
    else ts
  atWord "fn" ts
where
  dropWord (w : String) (ts : List Token) : List Token :=
    if atWord w ts then ts.drop 1 else ts

/-- The receiver of a method. -/
def receiver : Reader Unit := do
  let reference ← punct? "&"
  if reference then
    let _ ← lifetime?
  let _ ← word? "mut"
  word "self"
  if !reference then
    if ← punct? ":" then
      let _ ← g.type true

/-- Whether a receiver with a type comes next. -/
def atTypedReceiver (ts : List Token) : Bool :=
  let ts := if atWord "mut" ts then skipOne ts else ts
  atWord "self" ts && atPunct ":" (skipOne ts) && !atPunct "::" (skipOne ts)

/-- What a parameter of a function is. -/
inductive ParamKind where
  | receiver
  | typed
  | variadic
  deriving DecidableEq

/-- A parameter of a function. -/
def functionParam : Reader ParamKind := do
  let _ ← g.outerAttrs
  if ← punct? "..." then return .variadic
  if (← attempt (receiver g)).isSome then return .receiver
  let ts ← ahead
  require (!atTypedReceiver ts)
  if atName ts && atPunct "<" (skipOne ts) then
    let _ ← g.type true
    return .typed
  let _ ← g.pattern
  punct ":"
  if ← punct? "..." then return .variadic
  let _ ← g.type true
  return .typed

/-- The parameters of a function. Only the first can be a receiver, and only the last can
be variadic. -/
def functionParams : Reader Unit :=
  loop step true
where
  step (first : Bool) : Reader (Bool ⊕ Unit) := do
    if ← atEnd then return .inr ()
    let kind ← functionParam g
    require (first || kind ≠ .receiver)
    if kind = .variadic then
      let _ ← punct? ","
      require (← atEnd)
      return .inr ()
    if ← atEnd then return .inr ()
    punct ","
    return .inl false

/-- A function signature, with the function's name. -/
def signature (allowSafe : Bool) : Reader String := do
  let _ ← word? "const"
  let _ ← word? "async"
  if !(← word? "unsafe") && allowSafe then
    let _ ← word? "safe"
  convention?
  word "fn"
  let n ← name
  let _ ← generics g
  inside .paren (functionParams g)
  let _ ← resultType g true
  let _ ← whereClause g
  return n

/-! ## Declarations of values and types -/

/-- The rest of a constant, from its name on. -/
def constantRest : Reader Unit := do
  let _ ← nameOr ["_"]
  let _ ← generics g
  punct ":"
  let _ ← g.type true
  if ← punct? "=" then
    let _ ← g.expr true
  let _ ← whereClause g
  punct ";"

/-- A static variable. The type or the value can be left out. -/
def staticItem : Reader Unit := do
  word "static"
  let _ ← word? "mut"
  let _ ← name
  if ← punct? "=" then
    let _ ← g.expr true
    punct ";"
  else
    punct ":"
    let _ ← g.type true
    if ← punct? "=" then
      let _ ← g.expr true
    punct ";"

/-- Where a type alias may have its `where` clause. -/
inductive WherePlace where
  | beforeValue
  | afterValue
  | both
  deriving DecidableEq

/-- A type alias or an associated type. -/
def typeAlias (allowDefault : Bool) (place : WherePlace) : Reader Unit := do
  if allowDefault then
    let _ ← word? "default"
  word "type"
  let _ ← name
  let _ ← generics g
  if ← punct? ":" then
    let stop (ts : List Token) := atWord "where" ts || atPunct "=" ts || atPunct ";" ts
    let _ ← separated stop "+" (g.bound false true)
  let before ← if place = .afterValue then pure false else whereClause g
  if ← punct? "=" then
    let _ ← g.type true
  if place = .afterValue || (place = .both && !before) then
    let _ ← whereClause g
  punct ";"

/-- A macro call in the place of an item. -/
def macroItem : Reader Unit := do
  plainPath
  punct "!"
  let (d, _) ← someGroup
  if d ≠ .brace then punct ";"

/-- Named fields in braces. A field without a name can have fields of its own. -/
def fieldsRule : Reader Unit := do
  let _ ← inside .brace <| commaList do
    let _ ← g.outerAttrs
    let _ ← visibility
    let unnamed := atWord "_" (← ahead)
    let _ ← nameOr ["_"]
    punct ":"
    let ts ← ahead
    if unnamed &&
        (atWord "struct" ts || (atWord "union" ts && atGroup .brace (skipOne ts))) then
      let _ ← anyName
      g.fields
    else
      let _ ← g.type true

/-- Fields without names, in parentheses. -/
def tupleFields : Reader Unit := do
  let _ ← inside .paren <| commaList do
    let _ ← g.outerAttrs
    let _ ← visibility
    let _ ← g.type true

/-- A struct, from its name on. -/
def structRest : Reader Item := do
  let n ← name
  let _ ← generics g
  let constrained ← whereClause g
  if !constrained && atGroup .paren (← ahead) then
    tupleFields g
    let _ ← whereClause g
    punct ";"
  else if atGroup .brace (← ahead) then g.fields
  else punct ";"
  return .struct n

/-- A variant of an enum. -/
def enumVariant : Reader Unit := do
  let _ ← g.outerAttrs
  let _ ← visibility
  let _ ← name
  let ts ← ahead
  if atGroup .brace ts then g.fields
  else if atGroup .paren ts then tupleFields g
  if ← punct? "=" then
    let _ ← g.expr true

/-- An enum, from its name on. -/
def enumRest : Reader Item := do
  let n ← name
  let _ ← generics g
  let _ ← whereClause g
  let _ ← inside .brace (commaList (enumVariant g))
  return .enum n

/-- A union, from its name on. -/
def unionRest : Reader Item := do
  let n ← name
  let _ ← generics g
  let _ ← whereClause g
  g.fields
  return .union n

/-! ## Traits and implementations -/

/-- A member of a trait. A function with a visibility or a `default` is no method. -/
def traitItem : Reader Member := do
  let _ ← g.outerAttrs
  let isPublic ← visibility
  let isDefault ← word? "default"
  let ts ← ahead
  let bare := !isPublic && !isDefault
  if atWord "fn" ts || atSignature false ts then
    let n ← signature g false
    let body ←
      if atGroup .brace (← ahead) then do
        let (_, body) ← g.bracedWithAttrs
        pure (some body)
      else do
        punct ";"
        pure none
    return if bare then .method n body else .other
  else if ← word? "const" then constantRest g
  else if atWord "type" ts then typeAlias g false .afterValue
  else
    require (bare && (atPathWord ts || atPunct "::" ts))
    macroItem
  return .other

/-- A member of an implementation. A function without a body is no method. -/
def implItem : Reader Member := do
  let _ ← g.outerAttrs
  let isPublic ← visibility
  let ts ← ahead
  let isDefault := atWord "default" ts && !atPunct "!" (skipOne ts)
  if isDefault then word "default"
  let ts ← ahead
  if atWord "fn" ts || atSignature false ts then
    let n ← signature g false
    if ← punct? ";" then return .other
    let (_, body) ← g.bracedWithAttrs
    return .method n (some body)
  else if ← word? "const" then constantRest g
  else if atWord "type" ts then typeAlias g false .afterValue
  else
    require (!isPublic && !isDefault && (atPathWord ts || atPunct "::" ts))
    macroItem
  return .other

/-- The members of a trait or an implementation in braces. -/
def members (item : Reader Member) : Reader (List Member) :=
  inside .brace do
    let _ ← g.innerAttrs
    many (fun ts => !ts.isEmpty) item

/-- A trait after its name and generic parameters. -/
def traitRest (n : String) : Reader Item := do
  if ← punct? ":" then
    let _ ← separated (fun ts => atWord "where" ts || atGroup .brace ts) "+" (g.bound false true)
  let _ ← whereClause g
  return .trait n (← members g (traitItem g))

/-- A trait or a trait alias. -/
def traitItemOrAlias : Reader Item := do
  word "trait"
  let n ← name
  let _ ← generics g
  if ← punct? "=" then
    let _ ← separated (fun ts => atWord "where" ts || atPunct ";" ts) "+" (g.bound false false)
    let _ ← whereClause g
    punct ";"
    return .other
  traitRest g n

/-- An unsafe or automatic trait. -/
def markedTrait : Reader Item := do
  let _ ← word? "unsafe"
  let _ ← word? "auto"
  word "trait"
  let n ← name
  let _ ← generics g
  traitRest g n

/-- What a type is as the subject of an implementation. -/
def selfTypeOf (t : TypeForm) : SelfType :=
  match t.shape with
  | .path _ p => .path p.steps
  | _ => .other

/-- An implementation. It is none when it is public or conditional, or when what it implements is
not a path. Only an implementation of a trait can be negative. -/
def implementation (isPublic : Bool) : Reader Item := do
  let _ ← word? "default"
  let _ ← word? "unsafe"
  word "impl"
  if atGenerics (← ahead) then
    let _ ← generics g
  let ts ← ahead
  let conditional := atWord "const" ts || (atPunct "?" ts && atWord "const" (skipOne ts))
  if conditional then
    let _ ← punct? "?"
    word "const"
  let ts ← ahead
  let negative := atPunct "!" ts && !atGroup .brace (skipOne ts)
  if negative then punct "!"
  let first ← g.type true
  let ofTrait ← word? "for"
  require (ofTrait || !negative)
  let self ← if ofTrait then selfTypeOf <$> g.type true else pure (selfTypeOf first)
  let traitIsPath :=
    match first.shape with
    | .path false _ => true
    | _ => false
  let _ ← whereClause g
  let ms ← members g (implItem g)
  if isPublic || conditional || (ofTrait && !traitIsPath) then return .other
  return .implementation self ms

/-! ## Modules, foreign items and imports -/

/-- Items to the end, each with its attributes. -/
def items : Reader (List Item) :=
  many (fun ts => !ts.isEmpty) do
    let _ ← g.outerAttrs
    g.item

/-- A module. -/
def moduleItem : Reader Item := do
  let _ ← word? "unsafe"
  word "mod"
  let n ← nameOr ["try"]
  if ← punct? ";" then return .module n none
  let content ← inside .brace do
    let _ ← g.innerAttrs
    items g
  return .module n (some content)

/-- A foreign item. -/
def foreignItem : Reader Unit := do
  let _ ← g.outerAttrs
  let isPublic ← visibility
  let ts ← ahead
  if atWord "fn" ts || atSignature true ts then
    let _ ← signature g true
    if atGroup .brace (← ahead) then
      let _ ← g.bracedWithAttrs
    else punct ";"
  else if atWord "static" ts ||
      (atAnyWord ["unsafe", "safe"] ts && atWord "static" (skipOne ts)) then
    if !(← word? "unsafe") then
      let _ ← word? "safe"
    word "static"
    let _ ← word? "mut"
    let _ ← name
    punct ":"
    let _ ← g.type true
    if ← punct? "=" then
      let _ ← g.expr true
    punct ";"
  else if atWord "type" ts then typeAlias g false .both
  else
    require (!isPublic && (atPathWord ts || atPunct "::" ts))
    macroItem

/-- Foreign items in braces. -/
def foreignItems : Reader Unit := do
  let _ ← word? "unsafe"
  word "extern"
  if atString (← ahead) then string
  inside .brace do
    let _ ← g.innerAttrs
    let _ ← many (fun ts => !ts.isEmpty) (foreignItem g)

/-- The import of an external crate. -/
def crateImport : Reader Unit := do
  word "extern"
  word "crate"
  let _ ← nameOr ["self"]
  if ← word? "as" then
    let _ ← nameOr ["_"]
  punct ";"

/-- The tree of a `use`. -/
def useTreeRule (allowRoot : Bool) : Reader Unit := do
  let ts ← ahead
  if atPathWord ts || atWord "try" ts then
    let _ ← anyName
    if ← punct? "::" then g.useTree false
    else if ← word? "as" then
      let _ ← nameOr ["_"]
  else if atGroup .brace ts then
    let _ ← inside .brace <| commaList do
      let root ← if allowRoot then punct? "::" else pure false
      g.useTree (allowRoot && !root)
  else punct "*"

/-- An import. -/
def useItem : Reader Unit := do
  word "use"
  let root ← punct? "::"
  g.useTree (!root)
  punct ";"

/-- A macro defined with the word `macro`. -/
def macroDefinition : Reader Unit := do
  word "macro"
  let _ ← name
  if atGroup .paren (← ahead) then
    let _ ← group .paren
  let _ ← group .brace

/-- A macro call that stands as an item, with a name before its body if it defines something. -/
def macroInvocation : Reader Unit := do
  plainPath
  punct "!"
  let ts ← ahead
  if atName ts || atWord "try" ts then
    let _ ← anyName
  let (d, _) ← someGroup
  if d ≠ .brace then punct ";"

/-- An item after its attributes. -/
def itemRule : Reader Item := do
  let isPublic ← visibility
  let ts ← ahead
  let next := skipOne ts
  if atWord "fn" ts || atSignature false ts then
    let n ← signature g false
    if ← punct? ";" then return .other
    let (_, body) ← g.bracedWithAttrs
    return .function n body
  else if atWord "extern" ts then
    if atWord "crate" next then crateImport
    else
      require !isPublic
      foreignItems g
  else if atWord "use" ts then useItem g
  else if atWord "static" ts then staticItem g
  else if ← word? "const" then constantRest g
  else if atWord "unsafe" ts then
    if atWord "trait" next || (atWord "auto" next && atWord "trait" (skipTwo ts)) then
      return ← markedTrait g
    else if atWord "impl" next then return ← implementation g isPublic
    else if atWord "extern" next then
      require !isPublic
      foreignItems g
    else return ← moduleItem g
  else if atWord "mod" ts then return ← moduleItem g
  else if atWord "type" ts then typeAlias g false .beforeValue
  else if ← word? "struct" then return ← structRest g
  else if ← word? "enum" then return ← enumRest g
  else if atWord "union" ts && atName next then
    word "union"
    return ← unionRest g
  else if atWord "trait" ts then return ← traitItemOrAlias g
  else if atWord "auto" ts && atWord "trait" next then return ← markedTrait g
  else if atWord "impl" ts || (atWord "default" ts && !atPunct "!" next) then
    return ← implementation g isPublic
  else if atWord "macro" ts then macroDefinition
  else
    require (!isPublic && (atPathWord ts || atPunct "::" ts))
    macroInvocation
  return .other

end CallAtlas.Code.Grammar
