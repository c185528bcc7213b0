/-!
# Reading decimal numbers

A number of 64 bits is written as one or more ASCII digits, leading zeros allowed, with an optional
plus sign in front. `word` reads it from left to right and stops at the first character that is no
digit, or whose digit makes the number too large.
-/

namespace CallAtlas.Text.Decimal

/-- An ASCII digit. -/
def isDigit (c : Char) : Bool :=
  '0' ≤ c && c ≤ '9'

/-- The value of an ASCII digit. -/
def digit (c : Char) : Nat :=
  c.toNat - '0'.toNat

/-- What is wrong with a text that is no number. -/
inductive Fault where
  | empty
  | invalidDigit
  | tooLarge
  deriving DecidableEq, Repr

/-- The wording of a fault. -/
def Fault.message : Fault → String
  | .empty => "cannot parse integer from empty string"
  | .invalidDigit => "invalid digit found in string"
  | .tooLarge => "number too large to fit in target type"

/-- One more than the greatest number of 64 bits. -/
def wordLimit : Nat :=
  18446744073709551616

/-- Read on after digits of value `n`. -/
def digits (n : Nat) : List Char → Except Fault Nat
  | [] => .ok n
  | c :: cs =>
    if !isDigit c then .error .invalidDigit
    else if 10 * n + digit c < wordLimit then digits (10 * n + digit c) cs
    else .error .tooLarge

/-- The number of 64 bits that a text gives. -/
def word : List Char → Except Fault Nat
  | [] => .error .empty
  | ['+'] => .error .invalidDigit
  | '+' :: cs => digits 0 cs
  | cs => digits 0 cs

/-- The number of 64 bits that a text gives, if any. -/
def word? (cs : List Char) : Option Nat :=
  (word cs).toOption

/-! ## Written numbers -/

/-- The digits of a written number have its value. -/
theorem ofDigitChars_toString (n : Nat) : Nat.ofDigitChars 10 (toString n).toList 0 = n := by
  rw [Nat.toString_eq_repr, Nat.toList_repr, Nat.ofDigitChars_ten_toDigits]

theorem toString_inj {m n : Nat} : toString m = toString n ↔ m = n := by
  refine ⟨fun h => ?_, fun h => h ▸ rfl⟩
  rw [← ofDigitChars_toString m, h, ofDigitChars_toString]

end CallAtlas.Text.Decimal
