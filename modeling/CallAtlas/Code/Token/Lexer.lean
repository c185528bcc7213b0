import CallAtlas.Code.Token
import CallAtlas.Text.Blank
import CallAtlas.Text.Identifier

/-!
# Reading tokens from text

`Token.ofText?` cuts a source into token trees. White space and plain comments separate tokens, a
documentation comment counts as the attribute `#[doc = "…"]` (or `#![doc = "…"]`) that it stands
for. The scanners below take the remaining characters and give back what is left after their lexeme,
or `none`.
-/

namespace CallAtlas.Code.Lexer

open CallAtlas.Text

/-! ## Names -/

/-- An identifier without `r#` : its characters and the rest. -/
def plainName? : List Char → Option (List Char × List Char)
  | c :: cs =>
    if Identifier.isStart c then
      some (c :: cs.takeWhile Identifier.isContinue, cs.dropWhile Identifier.isContinue)
    else none
  | [] => none

/-- An identifier, raw or not. Some names cannot be raw. -/
def anyName? (cs : List Char) : Option (String × List Char) :=
  match cs with
  | 'r' :: '#' :: rest => do
    let (name, rest) ← plainName? rest
    let name := String.ofList name
    if ["_", "super", "self", "Self", "crate"].contains name then none
    else some ("r#" ++ name, rest)
  | _ => do
    let (name, rest) ← plainName? cs
    some (String.ofList name, rest)

/-- Beginnings that promise a literal, so that no identifier may begin with them. -/
def literalOpenings : List String :=
  ["r\"", "r#\"", "r##", "b\"", "b'", "br\"", "br#", "c\"", "cr\"", "cr#"]

/-- Whether the characters begin with the given text. -/
def startsWith (p : String) (cs : List Char) : Bool :=
  p.toList.isPrefixOf cs

/-- An identifier in a place where no literal begins. -/
def name? (cs : List Char) : Option (String × List Char) :=
  if literalOpenings.any (startsWith · cs) then none else anyName? cs

/-! ## Literals -/

/-- Drop the suffix that a literal may carry, as in `"x"suffix`. -/
def dropSuffix (cs : List Char) : List Char :=
  match plainName? cs with
  | some (_, rest) => rest
  | none => cs

def isHexDigit (c : Char) : Bool :=
  c.isDigit || ('a' ≤ c && c ≤ 'f') || ('A' ≤ c && c ≤ 'F')

def hexValue (c : Char) : Nat :=
  if c.isDigit then c.toNat - '0'.toNat
  else if 'a' ≤ c then c.toNat - 'a'.toNat + 10
  else c.toNat - 'A'.toNat + 10

/-- The digits of `\u{…}` after the opening brace : the code point and the rest. At most six digits,
with underscores after the first. -/
def codePoint? : List Char → (count value : Nat) → Option (Nat × List Char)
  | [], _, _ => none
  | c :: cs, count, value =>
    if isHexDigit c then
      if count = 6 then none else codePoint? cs (count + 1) (value * 16 + hexValue c)
    else if c = '_' && count > 0 then codePoint? cs count value
    else if c = '}' && count > 0 then
      if value < 0xD800 || (0xDFFF < value && value < 0x110000) then some (value, cs) else none
    else none

/-- What a quoted literal may hold : any text, bytes, or text without a zero byte. -/
inductive Content where
  | text
  | bytes
  | cText
  deriving DecidableEq

/-- A two-digit escape `\xHH` is allowed up to `7F` in text, and may not be zero in
zero-ended text. -/
def hexEscapeAllowed : Content → Char → Char → Bool
  | .text, a, b => '0' ≤ a && a ≤ '7' && isHexDigit b
  | .bytes, a, b => isHexDigit a && isHexDigit b
  | .cText, a, b => isHexDigit a && isHexDigit b && !(a = '0' && b = '0')

/-- A character after a backslash that needs nothing more. -/
def simpleEscape : Content → Char → Bool
  | .cText, c => ['n', 'r', 't', '\\', '\'', '"'].contains c
  | _, c => ['n', 'r', 't', '\\', '\'', '"', '0'].contains c

/-- An escape after its backslash : what follows it. -/
def escape? (k : Content) : List Char → Option (List Char)
  | 'x' :: a :: b :: rest => if hexEscapeAllowed k a b then some rest else none
  | 'u' :: '{' :: rest =>
    if k = .bytes then none
    else do
      let (value, rest) ← codePoint? rest 0 0
      if k = .cText && value = 0 then none else some rest
  | c :: rest => if simpleEscape k c then some rest else none
  | [] => none

/-- White space after a backslash at a line's end. A carriage return needs its line feed, and some
character must follow. -/
def skipContinuation? : List Char → Option (List Char)
  | '\r' :: '\n' :: rest => skipContinuation? rest
  | '\r' :: _ => none
  | ' ' :: rest => skipContinuation? rest
  | '\t' :: rest => skipContinuation? rest
  | '\n' :: rest => skipContinuation? rest
  | [] => none
  | cs => some cs

/-- The inside of a quoted literal up to its closing quote. `fuel` bounds the number
of characters. -/
def quoted? (k : Content) : (fuel : Nat) → List Char → Option (List Char)
  | 0, _ => none
  | _ + 1, [] => none
  | n + 1, c :: cs =>
    if c = '"' then some (dropSuffix cs)
    else if c = '\r' then
      match cs with
      | '\n' :: rest => quoted? k n rest
      | _ => none
    else if c = '\\' then
      match cs with
      | '\n' :: _ => (skipContinuation? cs).bind (quoted? k n)
      | '\r' :: _ => (skipContinuation? cs).bind (quoted? k n)
      | _ => (escape? k cs).bind (quoted? k n)
    else if (k = .bytes && c.toNat > 127) || (k = .cText && c.toNat = 0) then none
    else quoted? k n cs

/-- The inside of a raw literal up to a quote followed by `hashes` hash marks. -/
def rawQuoted? (k : Content) (hashes : List Char) : List Char → Option (List Char)
  | [] => none
  | '\r' :: '\n' :: rest => rawQuoted? k hashes rest
  | '\r' :: _ => none
  | c :: cs =>
    if c = '"' && hashes.isPrefixOf cs then some (dropSuffix (cs.drop hashes.length))
    else if (k = .bytes && c.toNat > 127) || (k = .cText && c.toNat = 0) then none
    else rawQuoted? k hashes cs

/-- A raw literal after its letters : hash marks (255 at most), quote, text, quote, as many
hash marks. -/
def raw? (k : Content) (cs : List Char) : Option (List Char) :=
  let hashes := cs.takeWhile (· = '#')
  match cs.dropWhile (· = '#') with
  | '"' :: rest => if hashes.length > 255 then none else rawQuoted? k hashes rest
  | _ => none

/-- The inside of a character literal, and its closing quote. -/
def character? (k : Content) : List Char → Option (List Char)
  | '\\' :: rest => (escape? k rest).bind closing?
  | c :: rest => if k = .bytes && c.toNat > 127 then none else closing? rest
  | [] => none
where
  closing? : List Char → Option (List Char)
    | '\'' :: rest => some (dropSuffix rest)
    | _ => none

/-- A number's suffix, and the rule that no identifier character may follow. -/
def numberEnd? (cs : List Char) : Option (List Char) :=
  match cs with
  | c :: _ =>
    if Identifier.isStart c then some (dropSuffix cs)
    else if Identifier.isContinue c then none
    else some cs
  | [] => some cs

/-- The exponent of a floating-point number, after its `e`. `none` when it has no digits or
two signs. -/
def exponent? : List Char → (sign digits : Bool) → Option (List Char)
  | [], _, digits => if digits then some [] else none
  | c :: cs, sign, digits =>
    if c = '+' || c = '-' then
      if digits then some (c :: cs) else if sign then none else exponent? cs true false
    else if c.isDigit then exponent? cs sign true
    else if c = '_' then exponent? cs sign digits
    else if digits then some (c :: cs) else none

/-- The digits of a floating-point number : digits with a point, an exponent, or both. A point
followed by another point or a name belongs to what comes next. -/
def floatDigits? : List Char → (point : Bool) → Option (List Char)
  | [], point => if point then some [] else none
  | c :: cs, point =>
    if c.isDigit || c = '_' then floatDigits? cs point
    else if c = '.' then
      if point then some (c :: cs)
      else
        match cs with
        | d :: _ => if d = '.' || Identifier.isStart d then none else floatDigits? cs true
        | [] => floatDigits? cs true
    else if c = 'e' || c = 'E' then
      match exponent? cs false false with
      | some rest => some rest
      | none => if point then some (c :: cs) else none
    else if point then some (c :: cs) else none

/-- A floating-point literal. -/
def float? (cs : List Char) : Option (List Char) :=
  match cs with
  | c :: rest => if c.isDigit then (floatDigits? rest false).bind numberEnd? else none
  | [] => none

/-- Digits to a base, with underscores. A letter past the base ends the digits, a digit past it is
an error, and in base ten the first character is a digit. -/
def digits? (base : Nat) : List Char → (some? : Bool) → Option (List Char)
  | [], seen => if seen then some [] else none
  | c :: cs, seen =>
    if c.isDigit then
      if hexValue c ≥ base then none else digits? base cs true
    else if isHexDigit c then
      if hexValue c ≥ base then (if seen then some (c :: cs) else none) else digits? base cs true
    else if c = '_' then
      if !seen && base = 10 then none else digits? base cs seen
    else if seen then some (c :: cs) else none

/-- An integer literal. -/
def int? (cs : List Char) : Option (List Char) :=
  let body :=
    match cs with
    | '0' :: 'x' :: rest => digits? 16 rest false
    | '0' :: 'o' :: rest => digits? 8 rest false
    | '0' :: 'b' :: rest => digits? 2 rest false
    | _ => digits? 10 cs false
  body.bind numberEnd?

/-- The text between two suffixes of the source. -/
def consumed (cs rest : List Char) : String :=
  String.ofList (cs.take (cs.length - rest.length))

/-- A literal that is not a number. -/
def textLiteral? (cs : List Char) : Option (Literal × List Char) :=
  let quote (k : Content) (l : Literal) (r : List Char) := (quoted? k (r.length + 1) r).map (l, ·)
  match cs with
  | '"' :: r => quote .text .string r
  | 'r' :: r => (raw? .text r).map (.string, ·)
  | 'b' :: '"' :: r => quote .bytes .other r
  | 'b' :: 'r' :: r => (raw? .bytes r).map (.other, ·)
  | 'c' :: '"' :: r => quote .cText .other r
  | 'c' :: 'r' :: r => (raw? .cText r).map (.other, ·)
  | 'b' :: '\'' :: r => (character? .bytes r).map (.other, ·)
  | '\'' :: r => (character? .text r).map (.other, ·)
  | _ => none

/-- A literal. -/
def literal? (cs : List Char) : Option (Literal × List Char) :=
  match textLiteral? cs with
  | some r => some r
  | none =>
    match float? cs with
    | some rest => some (.float (consumed cs rest), rest)
    | none => (int? cs).map fun rest => (.int (consumed cs rest), rest)

/-! ## Comments and white space -/

/-- White space between tokens. The two direction marks count. -/
def isGap (c : Char) : Bool :=
  isBlank c || c.toNat = 0x200e || c.toNat = 0x200f

/-- The text of a line and what follows it, from its line break on. -/
def splitLine : List Char → List Char × List Char
  | [] => ([], [])
  | '\n' :: rest => ([], '\n' :: rest)
  | '\r' :: '\n' :: rest => ([], '\n' :: rest)
  | c :: rest => let (line, after) := splitLine rest; (c :: line, after)

/-- The rest of a block comment that is open `depth` times, after its end. Comments nest. -/
def blockEnd? : List Char → (depth : Nat) → Option (List Char)
  | '/' :: '*' :: rest, depth => blockEnd? rest (depth + 1)
  | '*' :: '/' :: rest, depth => if depth ≤ 1 then some rest else blockEnd? rest (depth - 1)
  | _ :: rest, depth => blockEnd? rest depth
  | [], _ => none

/-- A block comment, from its opening on. -/
def blockComment? (cs : List Char) : Option (List Char) :=
  match cs with
  | '/' :: '*' :: rest => blockEnd? rest 1
  | _ => none

/-- A plain comment : not one that documents something. -/
def isPlainLineComment (cs : List Char) : Bool :=
  startsWith "//" cs && (!startsWith "///" cs || startsWith "////" cs) && !startsWith "//!" cs

/-- A plain block comment. -/
def isPlainBlockComment (cs : List Char) : Bool :=
  startsWith "/*" cs && (!startsWith "/**" cs || startsWith "/***" cs) && !startsWith "/*!" cs

/-- Skip white space and plain comments. `fuel` bounds the number of characters. -/
def skipGaps : (fuel : Nat) → List Char → List Char
  | 0, cs => cs
  | n + 1, cs =>
    if isPlainLineComment cs then skipGaps n (splitLine cs).2
    else if startsWith "/**/" cs then skipGaps n (cs.drop 4)
    else if isPlainBlockComment cs then
      match blockComment? cs with
      | some rest => skipGaps n rest
      | none => cs
    else
      match cs with
      | c :: rest => if isGap c then skipGaps n rest else cs
      | [] => cs

/-- Whether every carriage return is followed by a line feed. -/
def returnsPaired : List Char → Bool
  | '\r' :: '\n' :: rest => returnsPaired rest
  | '\r' :: _ => false
  | _ :: rest => returnsPaired rest
  | [] => true

/-- A documentation comment : whether it documents what encloses it, and the rest. -/
def docComment? (cs : List Char) : Option (Bool × List Char) :=
  let line (inner : Bool) (body : List Char) :=
    let (text, rest) := splitLine body
    if returnsPaired text then some (inner, rest) else none
  let block (inner : Bool) := do
    let rest ← blockComment? cs
    let text := (cs.take (cs.length - rest.length)).drop 3
    if returnsPaired text then some (inner, rest) else none
  if startsWith "//!" cs then line true (cs.drop 3)
  else if startsWith "/*!" cs then block true
  else if startsWith "///" cs && !startsWith "////" cs then line false (cs.drop 3)
  else if startsWith "/**" cs && !startsWith "/***" cs then block false
  else none

/-- The tokens that a documentation comment stands for. -/
def docTokens (inner : Bool) : List Token :=
  let body := Token.group .bracket [.ident "doc", .punct '=' false, .literal .string]
  if inner then [.punct '#' false, .punct '!' false, body] else [.punct '#' false, body]

/-! ## Lexemes -/

/-- A punctuation character. The slash of a comment is none. -/
def mark? (cs : List Char) : Option (Char × List Char) :=
  if startsWith "//" cs || startsWith "/*" cs then none
  else
    match cs with
    | c :: rest => if "~!@#$%^&*-=+|;:,<.>/?'".toList.contains c then some (c, rest) else none
    | [] => none

/-- A punctuation token. An apostrophe begins a lifetime, and then no second apostrophe may follow
the name, nor a hash mark unless the name is raw. -/
def punct? (cs : List Char) : Option (Token × List Char) := do
  let (c, rest) ← mark? cs
  if c = '\'' then
    let (_, after) ← anyName? rest
    if startsWith "'" after || (startsWith "#" after && !startsWith "r#" rest) then none
    else some (.punct c true, rest)
  else some (.punct c (mark? rest).isSome, rest)

/-- The delimiter that a character opens or closes. -/
def bracket? : Char → Option Lexeme
  | '(' => some (.opening .paren)
  | '[' => some (.opening .bracket)
  | '{' => some (.opening .brace)
  | ')' => some (.closing .paren)
  | ']' => some (.closing .bracket)
  | '}' => some (.closing .brace)
  | _ => none

/-- The mark of a token that could not be made, written as an empty group with a comment. It stands
for a literal. -/
def errorMark : String :=
  "(/*ERROR*/)"

/-- A token that is not a group. -/
def leaf? (cs : List Char) : Option (Token × List Char) :=
  match literal? cs with
  | some (l, rest) => some (.literal l, rest)
  | none =>
    match punct? cs with
    | some r => some r
    | none =>
      match name? cs with
      | some (name, rest) => some (.ident name, rest)
      | none =>
        if startsWith errorMark cs then some (.literal .other, cs.drop errorMark.length) else none

/-- All lexemes of a text. `fuel` bounds the number of characters. -/
def lexemes? : (fuel : Nat) → List Char → Option (List Lexeme)
  | 0, _ => none
  | n + 1, cs =>
    match skipGaps n cs with
    | [] => some []
    | c :: rest =>
      match docComment? (c :: rest) with
      | some (inner, after) =>
        (lexemes? n after).map ((docTokens inner).map Lexeme.token ++ ·)
      | none =>
        match if startsWith errorMark (c :: rest) then none else bracket? c with
        | some l => (lexemes? n rest).map (l :: ·)
        | none => do
          let (t, after) ← leaf? (c :: rest)
          let more ← lexemes? n after
          some (.token t :: more)

/-- Drop a leading byte order mark. -/
def dropOrderMark : List Char → List Char
  | c :: cs => if c.toNat = 0xfeff then cs else c :: cs
  | [] => []

end Lexer

/-- The token trees of a text, or `none` when it has a stray character, an open literal or comment,
or brackets that do not match. -/
def Token.ofText? (cs : List Char) : Option (List Token) := do
  let cs := Lexer.dropOrderMark cs
  let ls ← Lexer.lexemes? (cs.length + 1) cs
  Lexeme.nest ls [] []

end CallAtlas.Code
