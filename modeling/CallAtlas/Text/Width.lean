import CallAtlas.Text.Emoji
import CallAtlas.Text.Width.Ranges

/-!
# Display width

The number of terminal columns a text takes. By itself a character takes two columns if it is wide,
none if it is a mark that joins the character before it, and one otherwise (`alone`). Characters
that are drawn as one shape take the columns of that shape : emoji that are joined, styled or toned,
and the ligatures of some scripts.

`ofString` reads a text from its end and measures each character in view of what follows it
(`step`). A character may take back columns that were counted for the shape it becomes part of.
-/

namespace CallAtlas.Text.Width

/-! ## What follows a character -/

/-- The end of a ligature, which is one shape with certain characters before it. -/
inductive Ligature where
  /-- The Arabic letter alef, which joins lam. -/
  | alef
  /-- The Hebrew letter lamed, which joins alef. -/
  | lamed
  /-- The Buginese letter ya, alone and after the vowel sign i. -/
  | ya
  | yaAfterVowel
  /-- A Tifinagh consonant, alone and after the consonant joiner. -/
  | consonant
  | consonantAfterJoiner
  /-- A Lisu tone letter that combines with another before it. -/
  | tone
  /-- The Old Turkic letter i, which joins ic. -/
  | orkhonI
  /-- A Khmer letter that can stand below another. -/
  | subscript
  /-- The Kirat Rai vowel signs e and ai. -/
  | vowelE
  | vowelAi
  deriving DecidableEq

/-- What a joiner connects with the emoji before it. -/
inductive Joined where
  | emoji
  | keycap
  /-- Letters of flags : one, or an even or odd number of more. -/
  | flagLetter
  | evenFlagLetters
  | oddFlagLetters
  /-- The end of a flag spelled with tags, after so many letters. -/
  | tagLetters (count : Nat)
  /-- The end of a flag spelled with tags, after so many digits before the letters. -/
  | tagDigits (count : Nat)
  deriving DecidableEq

/-- The characters after a place, as far as they decide the width of what stands there. -/
inductive Following where
  | plain
  | lineFeed
  | skinTone
  | flagLetter
  | flagLetters
  | emoji
  | joined (j : Joined)
  /-- The end of a ligature, and whether a joiner stands before it. -/
  | ligature (l : Ligature) (joiner : Bool)
  deriving DecidableEq

/-- A selector that chooses the style of the character before it. -/
inductive Selector where
  | text
  | emoji
  /-- The full-width form of a quotation mark. -/
  | fullWidth
  deriving DecidableEq

/-- What follows a place, after the selector that may stand there. -/
structure Context where
  following : Following
  selector : Option Selector := none
  deriving DecidableEq

/-- The context of the end of a text. -/
def Context.plain : Context where
  following := .plain

/-- Whether a selector can stand between a character and what follows it. -/
def Following.isLigature : Following → Bool
  | .ligature .. => true
  | _ => false

/-- Whether an emoji before this belongs to the shape that follows. -/
def Following.isJoinedEmoji : Following → Bool
  | .joined .emoji => true
  | .joined .keycap => true
  | _ => false

/-- A context whose selector has nothing to select. -/
def Context.unselected (next : Context) : Context :=
  if next.following.isLigature then { next with selector := none } else .plain

/-- A context after one more selector. -/
def Context.select (next : Context) (s : Selector) : Context :=
  if next.following.isLigature || (s = .emoji && next.following.isJoinedEmoji) then
    { next with selector := some s }
  else ⟨.plain, some s⟩

/-! ## Characters by themselves -/

/-- Arabic letters that are forms of alef. -/
def alefRanges : Ranges :=
  [(0x622, 0x623), (0x625, 0x625), (0x627, 0x627), (0x671, 0x673), (0x675, 0x675), (0x773, 0x774),
    (0x870, 0x882)]

/-- Arabic letters that are forms of lam. -/
def lamRanges : Ranges :=
  [(0x644, 0x644), (0x6b5, 0x6b8), (0x76a, 0x76a), (0x8a6, 0x8a6), (0x8c7, 0x8c7)]

/-- Khmer letters that can stand below another. -/
def subscriptRanges : Ranges :=
  [(0x1780, 0x1782), (0x1784, 0x1787), (0x1789, 0x178c), (0x178e, 0x1793), (0x1795, 0x1798),
    (0x179b, 0x179d), (0x17a0, 0x17a0), (0x17a2, 0x17a2), (0x17a7, 0x17a7), (0x17ab, 0x17ac),
    (0x17af, 0x17af)]

/-- Tifinagh consonants. -/
def consonantRanges : Ranges :=
  [(0x2d31, 0x2d65), (0x2d6f, 0x2d6f)]

/-- Marks that are not shown, and may stand anywhere in a ligature. -/
def unseenMarkRanges : Ranges :=
  [(0x34f, 0x34f), (0x17b4, 0x17b5), (0x180b, 0x180d), (0x180f, 0x180f), (0xfe00, 0xfe0f),
    (0xe0100, 0xe01ef)]

/-- Whether a mark lets the Arabic letters on both sides of it join. -/
def joinsThrough (c : Char) : Bool :=
  jointRanges.contains c && !separatingRanges.contains c

/-- The end of a ligature that a character is. -/
def ligature? (c : Char) : Option Ligature :=
  if alefRanges.contains c then some .alef
  else if c.toNat = 0x5dc then some .lamed
  else if subscriptRanges.contains c then some .subscript
  else if c.toNat = 0x1a10 then some .ya
  else if consonantRanges.contains c then some .consonant
  else if c.toNat = 0xa4fc || c.toNat = 0xa4fd then some .tone
  else if c.toNat = 0x10c03 then some .orkhonI
  else if c.toNat = 0x16d67 then some .vowelE
  else if c.toNat = 0x16d68 then some .vowelAi
  else none

/-- Columns taken by a character that nothing else changes. -/
def ofChar (c : Char) : Nat :=
  if c.toNat ≤ 0xa0 then 1
  else if c.toNat = 0x17d8 then 3
  else if jointRanges.contains c then 0
  else if wideRanges.contains c then 2
  else 1

/-- The columns of a character by itself, and what it is for the character before it. -/
def alone (c : Char) : Int × Context :=
  match ligature? c with
  | some l => (1, ⟨.ligature l false, none⟩)
  | none =>
    if c.toNat = 0xfe01 then (0, ⟨.plain, some .fullWidth⟩)
    else if Emoji.isFlagLetter c then (1, ⟨.flagLetter, none⟩)
    else if Emoji.isModifier c then (2, ⟨.skinTone, none⟩)
    else if Emoji.isShown c then (2, ⟨.emoji, none⟩)
    else (ofChar c, .plain)

/-! ## Characters in a text -/

def zeroWidthJoiner : Nat := 0x200d

/-- A character before the end of a ligature : its columns, when it belongs to the ligature. -/
def beforeLigature? (l : Ligature) (joiner : Bool) (c : Char) : Option (Int × Context) :=
  let n := c.toNat
  let next : Context := ⟨.ligature l joiner, none⟩
  if l ≠ .alef && n = zeroWidthJoiner then some (0, ⟨.ligature l true, none⟩)
  else if l ≠ .alef && unseenMarkRanges.contains c then some (0, next)
  else
    match l with
    | .alef =>
      if lamRanges.contains c then some (0, .plain)
      else if joinsThrough c then some (0, next)
      else none
    | .lamed => if joiner && n = 0x5d0 then some (0, .plain) else none
    | .subscript => if n = 0x17d2 then some (-1, .plain) else none
    | .ya => if joiner && n = 0x1a17 then some (0, ⟨.ligature .yaAfterVowel true, none⟩) else none
    | .yaAfterVowel => if n = 0x1a15 then some (0, .plain) else none
    | .consonant =>
      if n = 0x2d7f then some (1, ⟨.ligature .consonantAfterJoiner true, none⟩)
      else if joiner && consonantRanges.contains c then some (0, .plain)
      else none
    | .consonantAfterJoiner => if consonantRanges.contains c then some (-1, .plain) else none
    | .tone => if 0xa4f8 ≤ n && n ≤ 0xa4fb then some (0, .plain) else none
    | .orkhonI => if joiner && n = 0x10c32 then some (0, .plain) else none
    | .vowelE =>
      if n = 0x16d63 || n = 0x16d69 then some (0, .plain)
      else if n = 0x16d67 then some (0, ⟨.ligature .vowelAi true, none⟩)
      else if n = 0x16d68 then some (1, ⟨.ligature .vowelE true, none⟩)
      else none
    | .vowelAi => if n = 0x16d63 then some (0, .plain) else none

/-- A character before something that a joiner connects with it : its columns, when they
are connected. -/
def beforeJoined? (j : Joined) (c : Char) : Option (Int × Context) :=
  let n := c.toNat
  let isLetter := 0xe0061 ≤ n && n ≤ 0xe007a
  let isDigit := 0xe0030 ≤ n && n ≤ 0xe0039
  let within (columns : Int) (j : Joined) : Option (Int × Context) :=
    some (columns, ⟨.joined j, none⟩)
  match j with
  | .emoji =>
    if n = 0x20e3 then within 0 .keycap
    else if Emoji.isFlagLetter c then within 1 .flagLetter
    else if Emoji.isModifier c then some (0, ⟨.skinTone, none⟩)
    else if n = 0xe007f then within 0 (.tagLetters 0)
    else if Emoji.isShown c then some (0, ⟨.emoji, none⟩)
    else none
  | .keycap => none
  | .flagLetter => if Emoji.isFlagLetter c then within (-1) .evenFlagLetters else none
  | .oddFlagLetters =>
    if Emoji.isFlagLetter c then within (-1) .evenFlagLetters
    else if n = zeroWidthJoiner then within 0 .emoji
    else none
  | .evenFlagLetters =>
    if Emoji.isFlagLetter c then within 3 .oddFlagLetters
    else if n = zeroWidthJoiner then within 0 .emoji
    else none
  | .tagLetters count =>
    if isLetter && count < 6 then within 0 (.tagLetters (count + 1))
    else if isDigit && count ≤ 4 then within 0 (.tagDigits 1)
    else if n = 0x1f3f4 && 3 ≤ count then some (0, ⟨.emoji, none⟩)
    else none
  | .tagDigits count =>
    if isDigit && count < 3 then within 0 (.tagDigits (count + 1))
    else if n = 0x1f3f4 && count = 3 then some (0, ⟨.emoji, none⟩)
    else none

/-- The columns of a character in view of what follows it, when it is part of a larger shape. -/
def inShape? (c : Char) (f : Following) : Option (Int × Context) :=
  let beforeEmoji : Option (Int × Context) :=
    if c.toNat = zeroWidthJoiner then some (0, ⟨.joined .emoji, none⟩) else none
  match f with
  | .plain => none
  | .lineFeed => none
  | .flagLetter => if Emoji.isFlagLetter c then some (1, ⟨.flagLetters, none⟩) else none
  | .flagLetters => if Emoji.isFlagLetter c then some (1, ⟨.flagLetters, none⟩) else beforeEmoji
  | .skinTone => if Emoji.isModifierBase c then some (0, ⟨.emoji, none⟩) else beforeEmoji
  | .emoji => beforeEmoji
  | .joined j => beforeJoined? j c
  | .ligature l joiner => beforeLigature? l joiner c

/-- Whether a character becomes narrow when it is shown as text. -/
def narrowsAsText (c : Char) : Bool :=
  Emoji.isShown c && Emoji.hasStyles c && !Emoji.isEnclosedIdeograph c

/-- Whether a character is a quotation mark with a full-width form. -/
def isCurlyQuote (c : Char) : Bool :=
  [0x2018, 0x2019, 0x201c, 0x201d].contains c.toNat

/-- The columns of a character in a text, and what it is for the character before it. A line feed
after a carriage return counts for both. -/
def step (c : Char) (next : Context) : Int × Context :=
  if next.selector = some .emoji && Emoji.hasStyles c then
    (if next.following.isJoinedEmoji then 0 else 2, ⟨.emoji, none⟩)
  else
    let next := if next.selector = some .emoji then next.unselected else next
    if c = '\n' then (1, ⟨.lineFeed, none⟩)
    else if c = '\r' && next.following = .lineFeed then (0, .plain)
    else if c.toNat ≤ 0xa0 then (1, .plain)
    else if c.toNat = 0xfe0f then (0, next.select .emoji)
    else if c.toNat = 0xfe0e then (0, next.select .text)
    else if next.selector = some .text && narrowsAsText c then (1, .plain)
    else if next.selector = some .fullWidth && isCurlyQuote c then (2, .plain)
    else
      let next := if next.selector.isSome then next.unselected else next
      (inShape? c next.following).getD (alone c)

/-- Columns taken by a text. -/
def ofString (s : String) : Nat :=
  (s.toList.foldr add ((0 : Int), Context.plain)).1.toNat
where
  add (c : Char) (done : Int × Context) : Int × Context :=
    let (columns, context) := step c done.2
    (done.1 + columns, context)

end CallAtlas.Text.Width
