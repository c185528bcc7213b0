import CallAtlas.Settings.Value
import CallAtlas.Text.Decimal
import CallAtlas.Text.Scanner

/-!
# TOML scalars

Strings, numbers, dates and times of TOML 1.0. An integer must fit 64 bits with sign, a floating
number must be finite unless it is written `inf`, and a date must be one of the calendar.
-/

namespace CallAtlas.Settings.Toml

open CallAtlas.Text
open CallAtlas.Text.Decimal (isDigit)
open Scanner

/-! ## White space -/

/-- A blank inside a line. -/
def isGap (c : Char) : Bool :=
  c == ' ' || c == '\t'

/-- Skip blanks inside a line. -/
def gap : Scanner Unit := do
  let _ ← takeWhile isGap

/-- Take the end of a line. -/
def newline : Scanner Unit :=
  char '\n' <|> text "\r\n"

/-- A character that may stand in a comment or a string : no control character but the tab. -/
def isTextChar (c : Char) : Bool :=
  c == '\t' || (' ' ≤ c && c != '\x7f')

/-- Take a comment. -/
def comment : Scanner Unit := do
  char '#'
  let _ ← takeWhile isTextChar

/-! ## Strings -/

/-- A digit in base sixteen. -/
def isHexDigit (c : Char) : Bool :=
  isDigit c || ('a' ≤ c && c ≤ 'f') || ('A' ≤ c && c ≤ 'F')

/-- The value of a digit in base sixteen. -/
def hexDigit (c : Char) : Nat :=
  if isDigit c then c.toNat - 48 else if 'a' ≤ c then c.toNat - 87 else c.toNat - 55

/-- The number written by digits in a base. -/
def ofDigits (base : Nat) (cs : List Char) : Nat :=
  cs.foldl (fun n c => base * n + hexDigit c) 0

/-- Take a number of digits in base sixteen that give a character. -/
def codePoint (count : Nat) : Scanner Char := do
  let cs ← get
  let digits := cs.take count
  require (digits.length == count && digits.all isHexDigit)
  set (cs.drop count)
  let n := ofDigits 16 digits
  if h : n.isValidChar then return Char.ofNatAux n h else failure

/-- Take what follows a backslash. -/
def escape : Scanner Char := do
  match ← satisfy fun _ => true with
  | 'b' => return '\x08'
  | 't' => return '\t'
  | 'n' => return '\n'
  | 'f' => return '\x0c'
  | 'r' => return '\r'
  | '"' => return '"'
  | '\\' => return '\\'
  | 'u' => codePoint 4
  | 'U' => codePoint 8
  | _ => failure

/-- Take one character of a string with escapes. -/
def basicChar : Scanner Char :=
  satisfy (fun c => isTextChar c && c != '"' && c != '\\') <|> (do char '\\'; escape)

/-- Take a string with escapes, on one line. -/
def basicString : Scanner String := do
  char '"'
  let cs ← many basicChar
  char '"'
  return String.ofList cs

/-- Take a string without escapes, on one line. -/
def literalString : Scanner String := do
  char '\''
  let cs ← takeWhile fun c => isTextChar c && c != '\''
  char '\''
  return String.ofList cs

/-- Take the end of a string that is closed by three quotes. Up to two more belong to the string. -/
def closingQuotes (quote : Char) : Scanner (List Char) := do
  let cs ← get
  let run := (cs.takeWhile (· == quote)).length
  require (3 ≤ run)
  let own := min (run - 3) 2
  set (cs.drop (own + 3))
  return List.replicate own quote

/-- Take one or two quotes that do not close a string. -/
def innerQuotes (quote : Char) : Scanner (List Char) := do
  let cs ← get
  let run := (cs.takeWhile (· == quote)).length
  require (run == 1 || run == 2)
  set (cs.drop run)
  return List.replicate run quote

/-- Take a backslash at the end of a line with all white space after it. -/
def continuation : Scanner (List Char) := do
  char '\\'
  gap
  newline
  let _ ← many (newline <|> (do let _ ← satisfy isGap))
  return []

/-- Take a string with escapes over several lines. -/
def longBasicString : Scanner String := do
  text "\"\"\""
  let _ ← optional newline
  let parts ← many (
    (do return [← basicChar]) <|> (do newline; return ['\n']) <|> continuation <|> innerQuotes '"')
  let rest ← closingQuotes '"'
  return String.ofList (parts.flatten ++ rest)

/-- Take a string without escapes over several lines. -/
def longLiteralString : Scanner String := do
  text "'''"
  let _ ← optional newline
  let parts ← many (
    (do return [← satisfy fun c => isTextChar c && c != '\'']) <|>
      (do newline; return ['\n']) <|> innerQuotes '\'')
  let rest ← closingQuotes '\''
  return String.ofList (parts.flatten ++ rest)

/-- Take a string of any form. -/
def string : Scanner String :=
  longBasicString <|> longLiteralString <|> basicString <|> literalString

/-! ## Numbers -/

/-- Take digits of which two may have an underscore between them. -/
def digitsWith (p : Char → Bool) : Scanner (List Char) := do
  let first ← satisfy p
  return first :: (← many (satisfy p <|> (do char '_'; satisfy p)))

/-- Take a sign. -/
def sign : Scanner Bool :=
  (do char '-'; return true) <|> (do char '+'; return false) <|> pure false

/-- Take the digits of a decimal integer. Zero stands alone. -/
def decimalDigits : Scanner (List Char) := do
  if (← peek) == some '0' then
    char '0'
    return ['0']
  digitsWith isDigit

/-- Whether an integer fits 64 bits with sign. -/
def fitsWord (i : Int) : Bool :=
  -9223372036854775808 ≤ i && i ≤ 9223372036854775807

/-- An integer that fits. -/
def fitting (i : Int) : Scanner Value := do
  require (fitsWord i)
  return .integer i

/-- Take an integer with a base in front. -/
def basedInteger : Scanner Value := do
  if ← reads (text "0x") then
    fitting (ofDigits 16 (← digitsWith isHexDigit))
  else if ← reads (text "0o") then
    fitting (ofDigits 8 (← digitsWith fun c => '0' ≤ c && c ≤ '7'))
  else
    text "0b"
    fitting (ofDigits 2 (← digitsWith fun c => c == '0' || c == '1'))

/-- Take a decimal integer. -/
def decimalInteger : Scanner Value := do
  let negative ← sign
  let n := ofDigits 10 (← decimalDigits)
  fitting (if negative then -n else n)

/-- Whether `digits · 10 ^ exponent` rounds to infinity. -/
def overflows (digits : Nat) (exponent : Int) : Bool :=
  let limit := Nat.pow 2 1024 - Nat.pow 2 970
  let size := (toString digits).length + exponent
  if digits = 0 || size < 300 then false
  else if 320 < size then true
  else if 0 ≤ exponent then limit ≤ digits * Nat.pow 10 exponent.toNat
  else limit * Nat.pow 10 (-exponent).toNat ≤ digits

/-- Take an exponent. -/
def exponent : Scanner Int := do
  char 'e' <|> char 'E'
  let negative ← sign
  let n := ofDigits 10 (← digitsWith isDigit)
  return if negative then -n else n

/-- Take a floating number written with digits. -/
def digitFloat : Scanner Value := do
  let negative ← sign
  let whole ← decimalDigits
  let fraction ← optional (do char '.'; digitsWith isDigit)
  let power ← optional exponent
  require (fraction.isSome || power.isSome)
  let places := fraction.getD []
  let tooLarge := overflows (ofDigits 10 (whole ++ places)) (power.getD 0 - places.length)
  require (negative || !tooLarge)
  return .float

/-- Take a floating number written with a word. -/
def wordFloat : Scanner Value := do
  let _ ← sign
  text "inf" <|> text "nan"
  return .float

/-! ## Dates and times -/

/-- Take a number of decimal digits. -/
def fixedDigits (count : Nat) : Scanner Nat := do
  let cs ← get
  let digits := cs.take count
  require (digits.length == count && digits.all isDigit)
  set (cs.drop count)
  return ofDigits 10 digits

/-- Take a number of two digits between bounds. -/
def twoDigits (low high : Nat) : Scanner Unit := do
  let n ← fixedDigits 2
  require (low ≤ n && n ≤ high)

/-- The number of days of a month. -/
def daysIn (year month : Nat) : Nat :=
  if month = 2 then
    if year % 4 = 0 && (year % 100 != 0 || year % 400 = 0) then 29 else 28
  else if [4, 6, 9, 11].contains month then 30
  else 31

/-- Take a day of the calendar. -/
def day : Scanner Unit := do
  let year ← fixedDigits 4
  char '-'
  let month ← fixedDigits 2
  require (1 ≤ month && month ≤ 12)
  char '-'
  twoDigits 1 (daysIn year month)

/-- Take a time of the day. -/
def timeOfDay : Scanner Unit := do
  twoDigits 0 23
  char ':'
  twoDigits 0 59
  char ':'
  twoDigits 0 60
  let _ ← optional (do char '.'; takeWhile1 isDigit)

/-- Take a distance to universal time. -/
def offset : Scanner Unit :=
  char 'Z' <|> char 'z' <|> do
    char '+' <|> char '-'
    twoDigits 0 23
    char ':'
    twoDigits 0 59

/-- Take a date, a time, or both. -/
def dateTime : Scanner Value := do
  (do
    day
    let _ ← optional do
      char 'T' <|> char 't' <|> char ' '
      timeOfDay
      optional offset) <|> timeOfDay
  return .date

/-! ## Scalars -/

/-- Take a truth value. -/
def boolean : Scanner Value :=
  (do text "true"; return .bool true) <|> (do text "false"; return .bool false)

/-- Take a scalar. -/
def scalar : Scanner Value :=
  (.text <$> string) <|> boolean <|> dateTime <|> digitFloat <|> wordFloat <|> basedInteger <|>
    decimalInteger

end CallAtlas.Settings.Toml
