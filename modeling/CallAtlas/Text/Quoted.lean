import CallAtlas.Text.Printable

/-!
# Quoted text

`quote` writes a text between double quotes so that every character in it can be told : quotes,
backslashes and the common control characters are escaped by name, other obscure characters by
number.
-/

namespace CallAtlas.Text

/-- The digits of a number in base sixteen, lower case. -/
def hex (n : Nat) : String :=
  String.ofList (Nat.toDigits 16 n)

/-- How one character is written between quotes. -/
def quoteChar (c : Char) : String :=
  if c = '"' then "\\\""
  else if c = '\\' then "\\\\"
  else if c = '\n' then "\\n"
  else if c = '\r' then "\\r"
  else if c = '\t' then "\\t"
  else if c = '\x00' then "\\0"
  else if Printable.isPlain c then c.toString
  else "\\u\x7b" ++ hex c.toNat ++ "\x7d"

/-- A text between double quotes. -/
def quote (s : String) : String :=
  "\"" ++ String.join (s.toList.map quoteChar) ++ "\""

end CallAtlas.Text
