import CallAtlas.Shell.Arithmetic
import CallAtlas.Text.Decimal

/-!
# Formatted text

`echo` writes its arguments with blanks between them. `format` writes a format with arguments in the
place of its conversions, again and again until the arguments are used up. Both know the escapes of
a backslash.
-/

namespace CallAtlas.Shell.Format

open CallAtlas.Text

/-- Bytes from a list. -/
def ofBytes (bs : List UInt8) : ByteArray :=
  ⟨bs.toArray⟩

/-- The bytes of a text. -/
def bytes (s : String) : List UInt8 :=
  s.toUTF8.toList

/-! ## Escapes -/

/-- An octal digit. -/
def isOctal (c : Char) : Bool :=
  '0' ≤ c && c ≤ '7'

/-- The byte of an escape after its backslash, and what comes after it. -/
def escape : List Char → List UInt8 × List Char
  | 'a' :: cs => ([7], cs)
  | 'b' :: cs => ([8], cs)
  | 'e' :: cs => ([27], cs)
  | 'f' :: cs => ([12], cs)
  | 'n' :: cs => ([10], cs)
  | 'r' :: cs => ([13], cs)
  | 't' :: cs => ([9], cs)
  | 'v' :: cs => ([11], cs)
  | '\\' :: cs => ([92], cs)
  | cs =>
    let digits := (cs.takeWhile isOctal).take 3
    if digits.isEmpty then ([92], cs)
    else ([(Nat.ofDigitChars 8 digits 0).toUInt8], cs.drop digits.length)

/-- The bytes of a text with escapes, and whether it asks to stop. Octal escapes may have a zero
in front. -/
def unescapeUpTo : Nat → List Char → List UInt8 × Bool
  | 0, _ => ([], false)
  | _, [] => ([], false)
  | _, '\\' :: 'c' :: _ => ([], true)
  | n + 1, '\\' :: cs =>
    let cs := match cs with
      | '0' :: d :: rest => if isOctal d then d :: rest else cs
      | _ => cs
    let (bs, rest) := escape cs
    let (more, stops) := unescapeUpTo n rest
    (bs ++ more, stops)
  | n + 1, c :: cs =>
    let (more, stops) := unescapeUpTo n cs
    (bytes c.toString ++ more, stops)

/-- The bytes of a text with escapes, and whether it asks to stop. -/
def unescape (s : String) : List UInt8 × Bool :=
  unescapeUpTo s.length s.toList

/-- Write arguments with blanks between them. -/
def echo (args : List String) : ByteArray :=
  let (silent, args) := if args.head? == some "-n" then (true, args.tail) else (false, args)
  let (out, stops) := unescape (" ".intercalate args)
  ofBytes (if silent || stops then out else out ++ [10])

/-! ## Conversions -/

/-- A conversion : its flags, its least width, its precision, and its letter. -/
structure Conversion where
  flags : List Char := []
  width : Nat := 0
  precision : Option Nat := none
  letter : Char

/-- Fill up to a width. -/
def Conversion.pad (c : Conversion) (bs : List UInt8) : List UInt8 :=
  let fill := List.replicate (c.width - bs.length) (32 : UInt8)
  if c.flags.contains '-' then bs ++ fill else fill ++ bs

/-- The digits of a number with a base. -/
def digits (base : Nat) (n : Nat) : String :=
  String.ofList (Nat.toDigits base n)

/-- Write a number : a sign, a mark of the base, and digits, with zeros to reach the precision or
the width. -/
def Conversion.number (c : Conversion) (sign mark digits : String) : List UInt8 :=
  let digits := match c.precision with
    | some p =>
      if p == 0 && digits == "0" then ""
      else String.ofList (List.replicate (p - digits.length) '0') ++ digits
    | none =>
      if c.flags.contains '0' && !c.flags.contains '-' then
        String.ofList
          (List.replicate (c.width - sign.length - mark.length - digits.length) '0') ++ digits
      else digits
  c.pad (bytes (sign ++ mark ++ digits))

/-- The sign of a number. One that is not negative has the sign that the flags ask for. -/
def Conversion.sign (c : Conversion) (negative : Bool) : String :=
  if negative then "-"
  else if c.flags.contains '+' then "+"
  else if c.flags.contains ' ' then " "
  else ""

/-- Write a number with a sign. -/
def Conversion.signed (c : Conversion) (n : Int) : List UInt8 :=
  c.number (c.sign (n < 0)) "" (digits 10 n.natAbs)

/-- Write a number without a sign. -/
def Conversion.unsigned (c : Conversion) (n : Nat) : List UInt8 :=
  let marks := c.flags.contains '#' && n != 0
  match c.letter with
  | 'o' => c.number "" (if marks then "0" else "") (digits 8 n)
  | 'x' => c.number "" (if marks then "0x" else "") (digits 16 n)
  | 'X' => c.number "" (if marks then "0X" else "") (digits 16 n).toUpper
  | _ => c.number "" "" (digits 10 n)

/-- Write a text. -/
def Conversion.text (c : Conversion) (bs : List UInt8) : List UInt8 :=
  c.pad (match c.precision with
    | some p => bs.take p
    | none => bs)

/-- Divide and round to the nearest number, a half to the even one. -/
def roundDiv (n unit : Nat) : Nat :=
  let quotient := n / unit
  let rest := 2 * (n % unit)
  if rest < unit || (rest == unit && quotient % 2 == 0) then quotient else quotient + 1

/-- Write a decimal number with a fixed number of places. `n` counts units of a power of ten. -/
def Conversion.fixed (c : Conversion) (negative : Bool) (n places : Nat) : List UInt8 :=
  let wanted := c.precision.getD 6
  let scaled :=
    if places ≤ wanted then n * Nat.pow 10 (wanted - places)
    else roundDiv n (Nat.pow 10 (places - wanted))
  let ds := digits 10 scaled
  let ds := String.ofList (List.replicate (wanted + 1 - ds.length) '0') ++ ds
  let whole := String.ofList (ds.toList.take (ds.length - wanted))
  let places := String.ofList (ds.toList.drop (ds.length - wanted))
  { c with precision := none }.number (c.sign negative) ""
    (if wanted == 0 then whole else whole ++ "." ++ places)

/-- The digits of a number, so many that one stands before the point, and the power of ten. `n`
counts units of a power of ten. -/
def significant (n places wanted : Nat) : String × Int :=
  let length := (digits 10 n).length
  let scaled :=
    if wanted ≤ length then roundDiv n (Nat.pow 10 (length - wanted))
    else n * Nat.pow 10 (wanted - length)
  let exponent : Int := if n == 0 then 0 else (length : Int) - 1 - places
  let ds := digits 10 scaled
  if wanted < ds.length && n != 0 then (String.ofList (ds.toList.take wanted), exponent + 1)
  else (if n == 0 then String.ofList (List.replicate wanted '0') else ds, exponent)

/-- Digits with a point after the first. -/
def pointed (ds : String) : String :=
  match ds.toList with
  | d :: rest@(_ :: _) => String.ofList (d :: '.' :: rest)
  | _ => ds

/-- A power of ten, with a sign and at least two digits. -/
def powerText (e : Int) : String :=
  let ds := digits 10 e.natAbs
  (if e < 0 then "e-" else "e+") ++ (if ds.length < 2 then "0" ++ ds else ds)

/-- Write a decimal number with a power of ten. -/
def Conversion.scientific (c : Conversion) (negative : Bool) (n places : Nat) : List UInt8 :=
  let (ds, e) := significant n places (c.precision.getD 6 + 1)
  { c with precision := none }.number (c.sign negative) "" (pointed ds ++ powerText e)

/-- Drop zeros at the end of the places, and the point if no places are left. -/
def withoutZeros (s : String) : String :=
  if !s.toList.contains '.' then s
  else
    match s.toList.reverse.dropWhile (· == '0') with
    | '.' :: rest => String.ofList rest.reverse
    | rest => String.ofList rest.reverse

/-- Write a decimal number in the shorter of both ways. -/
def Conversion.general (c : Conversion) (negative : Bool) (n places : Nat) : List UInt8 :=
  let wanted := max 1 (c.precision.getD 6)
  let (ds, e) := significant n places wanted
  let text :=
    if e < -4 || (wanted : Int) ≤ e then withoutZeros (pointed ds) ++ powerText e
    else if e < 0 then
      withoutZeros ("0." ++ String.ofList (List.replicate ((-e).toNat - 1) '0') ++ ds)
    else
      let whole := e.toNat + 1
      withoutZeros
        (String.ofList (ds.toList.take whole) ++ "." ++ String.ofList (ds.toList.drop whole))
  { c with precision := none }.number (c.sign negative) "" text

/-! ## Formats -/

/-- The state of writing a format : what was written, what arguments are left, and
the complaints. -/
structure Progress where
  written : List UInt8 := []
  arguments : List String
  complaints : List String := []

/-- Why writing ends. -/
inductive Stop where
  | asked
  | error (complaint : String)
  deriving DecidableEq, Repr

/-- Write a part of a format. -/
abbrev Writer := ExceptT Stop (StateM Progress)

/-- Write bytes. -/
def emit (bs : List UInt8) : Writer Unit :=
  modify fun p => { p with written := p.written ++ bs }

/-- Take the next argument. -/
def argument? : Writer (Option String) := do
  let p ← get
  set { p with arguments := p.arguments.tail }
  return p.arguments.head?

/-- Complain about an argument. -/
def complain (text : String) : Writer Unit :=
  modify fun p => { p with complaints := p.complaints ++ [text] }

/-- Take a number. A quote in front asks for the number of the character after it. -/
def numberArgument : Writer Int := do
  match ← argument? with
  | none => return 0
  | some s =>
    match s.toList with
    | '"' :: _ => return ((bytes s)[1]?.getD 0).toNat
    | '\'' :: _ => return ((bytes s)[1]?.getD 0).toNat
    | [] => return 0
    | _ =>
      match Arithmetic.signedNumber s with
      | none => complain (s ++ ": expected numeric value"); return 0
      | some (n, rest) =>
        if !rest.isEmpty then complain (s ++ ": not completely converted")
        return n

/-- The digits, the number of places and the rest of a decimal number. -/
def decimal (cs : List Char) : List Char × Nat × List Char :=
  let whole := cs.takeWhile Decimal.isDigit
  match cs.drop whole.length with
  | '.' :: rest =>
    let places := rest.takeWhile Decimal.isDigit
    (whole ++ places, places.length, rest.drop places.length)
  | rest => (whole, 0, rest)

/-- Take a number with places, and write it. -/
def decimalArgument (write : Bool → Nat → Nat → List UInt8) : Writer Unit := do
  let s := (← argument?).getD ""
  let (negative, cs) := match s.toList with
    | '-' :: cs => (true, cs)
    | '+' :: cs => (false, cs)
    | cs => (false, cs)
  let (ds, places, rest) := decimal cs
  if ds.isEmpty && !s.isEmpty then complain (s ++ ": expected numeric value")
  else if !rest.isEmpty then complain (s ++ ": not completely converted")
  emit (write negative (Nat.ofDigitChars 10 ds 0) places)

/-- The number of values that 64 bits have. -/
def wordCount : Int := 18446744073709551616

/-- Write an argument with a conversion. -/
def convert (directive : String) (c : Conversion) : Writer Unit := do
  match c.letter with
  | 's' => emit (c.text (bytes ((← argument?).getD "")))
  | 'b' =>
    let (bs, stops) := unescape ((← argument?).getD "")
    emit (c.text bs)
    if stops then throw .asked
  | 'c' => emit (c.text [((bytes ((← argument?).getD "")).head?).getD 0])
  | 'd' => emit (c.signed (← numberArgument))
  | 'i' => emit (c.signed (← numberArgument))
  | 'f' => decimalArgument c.fixed
  | 'F' => decimalArgument c.fixed
  | 'e' => decimalArgument c.scientific
  | 'g' => decimalArgument c.general
  | _ =>
    if "oxXu".toList.contains c.letter then emit (c.unsigned ((← numberArgument) % wordCount).toNat)
    else throw (.error (directive ++ ": invalid directive"))

/-- Take a width or a precision : digits, or a star for an argument. -/
def size (cs : List Char) : Writer (Option Int × List Char) := do
  match cs with
  | '*' :: cs => return (some (← numberArgument), cs)
  | cs =>
    let ds := cs.takeWhile Decimal.isDigit
    return (if ds.isEmpty then none else some (Nat.ofDigitChars 10 ds 0), cs.drop ds.length)

/-- Write a conversion after its percent sign, and give the rest of the format. -/
def conversion (cs : List Char) : Writer (List Char) := do
  let flags := cs.takeWhile ("#-+ 0".toList.contains ·)
  let (width, rest) ← size (cs.drop flags.length)
  let (precision, rest) ← match rest with
    | '.' :: rest =>
      let (p, rest) ← size rest
      pure (some (p.getD 0), rest)
    | rest => pure (none, rest)
  match rest with
  | [] => throw (.error "missing format character")
  | letter :: rest' =>
    let width := width.getD 0
    convert ("%" ++ String.ofList (cs.take (cs.length - rest'.length)))
      { flags := if width < 0 then '-' :: flags else flags
        width := width.natAbs
        precision := precision.bind fun p => if p < 0 then none else some p.natAbs
        letter }
    return rest'

/-- Write a format once. -/
def once : Nat → List Char → Writer Unit
  | 0, _ => return
  | _, [] => return
  | n + 1, '\\' :: cs => do
    let (bs, rest) := escape cs
    emit bs
    once n rest
  | n + 1, '%' :: '%' :: cs => do
    emit [37]
    once n cs
  | n + 1, '%' :: cs => do
    once n (← conversion cs)
  | n + 1, c :: cs => do
    emit (bytes c.toString)
    once n cs

/-- Write a format until the arguments are used up. A format that uses none is written once. -/
def again (text : List Char) : Nat → Writer Unit
  | 0 => return
  | n + 1 => do
    let before := (← get).arguments.length
    once text.length text
    let after := (← get).arguments.length
    if after != 0 && after != before then again text n

/-- Write a format with arguments. The status is 1 if there are complaints, and 2 if writing stopped
with one. -/
def format (text : String) (args : List String) : Progress × Nat :=
  match (again text.toList (args.length + 1)).run.run { arguments := args } with
  | (.error (.error complaint), p) => ({ p with complaints := p.complaints ++ [complaint] }, 2)
  | (_, p) => (p, if p.complaints.isEmpty then 0 else 1)

end CallAtlas.Shell.Format
