import CallAtlas.Code.Token

/-!
# Readers over token trees

A `Reader` takes tokens from the front of a sequence, or fails. A failed reader takes nothing, so an
alternative can be tried in its place. Looking ahead is done by plain functions on the sequence.

Repetition is bounded by the number of tokens that are left : `Reader.loop` gives up after one more
round than that, which no reader that takes a token in each round can reach.
-/

namespace CallAtlas.Code

/-- Take a value from the front of a token sequence, or fail. -/
abbrev Reader := StateT (List Token) Option

/-! ## Looking ahead -/

/-- Whether the sequence begins with the punctuation `marks`, without gaps between them. -/
def atMarks : List Char → List Token → Bool
  | [], _ => true
  | [c], .punct d _ :: _ => c = d
  | c :: cs, .punct d true :: ts => c = d && atMarks cs ts
  | _, _ => false

/-- Whether the sequence begins with the given punctuation. -/
def atPunct (p : String) (ts : List Token) : Bool :=
  atMarks p.toList ts

/-- Whether the sequence begins with the given word. -/
def atWord (w : String) : List Token → Bool
  | .ident n :: _ => n = w
  | _ => false

/-- Whether the sequence begins with one of the given words. -/
def atAnyWord (ws : List String) : List Token → Bool
  | .ident n :: _ => ws.contains n
  | _ => false

/-- Words that cannot name anything. -/
def reservedWords : List String :=
  ["_", "abstract", "as", "async", "await", "become", "box", "break", "const", "continue", "crate",
    "do", "dyn", "else", "enum", "extern", "false", "final", "fn", "for", "if", "impl", "in", "let",
    "loop", "macro", "match", "mod", "move", "mut", "override", "priv", "pub", "ref", "return",
    "Self", "self", "static", "struct", "super", "trait", "true", "try", "type", "typeof", "unsafe",
    "unsized", "use", "virtual", "where", "while", "yield"]

/-- Whether the sequence begins with a name. -/
def atName : List Token → Bool
  | .ident n :: _ => !reservedWords.contains n
  | _ => false

/-- Whether the sequence begins with a word, reserved or not. -/
def atAnyName : List Token → Bool
  | .ident _ :: _ => true
  | _ => false

/-- Whether the sequence begins with a group. -/
def atGroup (d : Delimiter) : List Token → Bool
  | .group e _ :: _ => d = e
  | _ => false

/-- Whether the sequence begins with a group of any kind. -/
def atSomeGroup : List Token → Bool
  | .group .. :: _ => true
  | _ => false

/-- Whether the sequence begins with a lifetime. -/
def atLifetime : List Token → Bool
  | .punct '\'' true :: .ident _ :: _ => true
  | _ => false

/-- A literal, which may be a negative number, and the tokens after it. -/
def literalAhead? : List Token → Option (Literal × List Token)
  | .literal l :: ts => some (l, ts)
  | .ident "true" :: ts => some (.other, ts)
  | .ident "false" :: ts => some (.other, ts)
  | .punct '-' _ :: .literal (.int t) :: ts => some (.int ("-" ++ t), ts)
  | .punct '-' _ :: .literal (.float t) :: ts => some (.float ("-" ++ t), ts)
  | _ => none

/-- Whether the sequence begins with a literal. -/
def atLiteral (ts : List Token) : Bool :=
  (literalAhead? ts).isSome

/-- Whether the sequence begins with a string literal. -/
def atString : List Token → Bool
  | .literal .string :: _ => true
  | _ => false

/-- The sequence after its first token. A lifetime counts as one token. -/
def skipOne : List Token → List Token
  | .punct '\'' true :: .ident _ :: ts => ts
  | _ :: ts => ts
  | [] => []

/-- The sequence after its first two tokens. -/
def skipTwo (ts : List Token) : List Token :=
  skipOne (skipOne ts)

/-- A path that can name a module, a macro or an attribute begins with one of these. -/
def atPathWord (ts : List Token) : Bool :=
  atName ts || atAnyWord ["self", "super", "crate"] ts

namespace Reader

/-! ## Taking tokens -/

/-- The tokens that are left. -/
def ahead : Reader (List Token) := get

/-- Succeed when a condition holds. -/
def require (b : Bool) : Reader Unit :=
  if b then pure () else failure

/-- Whether a test holds of what is left. -/
def test (p : List Token → Bool) : Reader Bool :=
  return p (← get)

/-- Whether nothing is left. -/
def atEnd : Reader Bool :=
  test List.isEmpty

/-- Take the given punctuation. -/
def punct (p : String) : Reader Unit := do
  let ts ← get
  require (atPunct p ts)
  set (ts.drop p.length)

/-- Take the given punctuation if it comes next, and say whether it did. -/
def punct? (p : String) : Reader Bool := do
  let ts ← get
  if atPunct p ts then
    set (ts.drop p.length)
    return true
  return false

/-- Take the given word. -/
def word (w : String) : Reader Unit := do
  let ts ← get
  require (atWord w ts)
  set (ts.drop 1)

/-- Take the given word if it comes next, and say whether it did. -/
def word? (w : String) : Reader Bool := do
  let ts ← get
  if atWord w ts then
    set (ts.drop 1)
    return true
  return false

/-- Take a word, reserved or not. -/
def anyName : Reader String := do
  match ← get with
  | .ident n :: ts => set ts; return n
  | _ => failure

/-- Take a name. -/
def name : Reader String := do
  require (atName (← get))
  anyName

/-- Take a name or a word that stands in for one here. -/
def nameOr (ws : List String) : Reader String := do
  let ts ← get
  require (atName ts || atAnyWord ws ts)
  anyName

/-- Take a lifetime. -/
def lifetime : Reader Unit := do
  match ← get with
  | .punct '\'' true :: .ident _ :: ts => set ts
  | _ => failure

/-- Take a lifetime if one comes next, and say whether it did. -/
def lifetime? : Reader Bool := do
  if atLifetime (← get) then
    lifetime
    return true
  return false

/-- Take a literal. -/
def literal : Reader Literal := do
  match literalAhead? (← get) with
  | some (l, ts) => set ts; return l
  | none => failure

/-- Take a string literal. -/
def string : Reader Unit := do
  match ← get with
  | .literal .string :: ts => set ts
  | _ => failure

/-- Take a group and give its content. -/
def group (d : Delimiter) : Reader (List Token) := do
  match ← get with
  | .group e content :: ts =>
    require (d = e)
    set ts
    return content
  | _ => failure

/-- Take a group of any kind. -/
def someGroup : Reader (Delimiter × List Token) := do
  match ← get with
  | .group d content :: ts => set ts; return (d, content)
  | _ => failure

/-- Read the whole of a token sequence. -/
def whole (r : Reader α) (ts : List Token) : Option α :=
  match r ts with
  | some (a, []) => some a
  | _ => none

/-- Take a group and read the whole of its content. -/
def inside (d : Delimiter) (r : Reader α) : Reader α := do
  match whole r (← group d) with
  | some a => return a
  | none => failure

/-- Try a reader, and take nothing if it fails. -/
def attempt (r : Reader α) : Reader (Option α) :=
  fun ts =>
    match r ts with
    | some (a, rest) => some (some a, rest)
    | none => some (none, ts)

/-- Whether a sequence ends in a group of braces. -/
def endsInBrace (ts : List Token) : Bool :=
  match ts.getLast? with
  | some (.group .brace _) => true
  | _ => false

/-- Read something, and say whether the last token taken is a group of braces. -/
def withBraceEnd (r : Reader α) : Reader (α × Bool) := do
  let before ← ahead
  let a ← r
  let after ← ahead
  return (a, endsInBrace (before.take (before.length - after.length)))

/-! ## Repetition -/

/-- Run `step` from a state until it gives a result, for at most `n` rounds. -/
def rounds (step : σ → Reader (σ ⊕ β)) : (n : Nat) → σ → Reader β
  | 0, _ => failure
  | n + 1, s => do
    match ← step s with
    | .inl s => rounds step n s
    | .inr b => return b

/-- Run `step` from a state until it gives a result. -/
def loop (step : σ → Reader (σ ⊕ β)) (s : σ) : Reader β :=
  fun ts => rounds step (ts.length + 2) s ts

/-- Read items while `more` holds of what is left. -/
def many (more : List Token → Bool) (r : Reader α) : Reader (List α) :=
  loop step []
where
  step (acc : List α) : Reader (List α ⊕ List α) := do
    if more (← get) then
      return .inl (acc ++ [← r])
    return .inr acc

/-- Read items separated by `sep` until `stop` holds of what is left. A separator may end
the list. -/
def separated (stop : List Token → Bool) (sep : String) (r : Reader α) : Reader (List α) :=
  loop step []
where
  step (acc : List α) : Reader (List α ⊕ List α) := do
    if stop (← get) then return .inr acc
    let acc := acc ++ [← r]
    if stop (← get) then return .inr acc
    punct sep
    return .inl acc

/-- Read items separated by `sep` as long as a separator follows, unless `stop` holds. -/
def joined (stop : List Token → Bool) (sep : String) (r : Reader α) : Reader (List α) :=
  loop step []
where
  step (acc : List α) : Reader (List α ⊕ List α) := do
    if stop (← get) then return .inr acc
    let acc := acc ++ [← r]
    if ← punct? sep then return .inl acc
    return .inr acc

/-- Read items separated by commas to the end. -/
def commaList (r : Reader α) : Reader (List α) :=
  separated List.isEmpty "," r

end Reader

end CallAtlas.Code
