import CallAtlas.Text.Quoted

/-!
# JSON text

A JSON value with numbers that are natural. `JsonValue.pretty` writes it over several lines, each
nested level indented by two blanks.
-/

namespace CallAtlas

/-- A JSON value. -/
inductive JsonValue where
  | null
  | bool (b : Bool)
  | number (n : Nat)
  | string (s : String)
  | array (items : List JsonValue)
  | object (fields : List (String × JsonValue))

namespace JsonValue

/-- How one character of a string is written. -/
def escapeChar (c : Char) : String :=
  if c = '"' then "\\\""
  else if c = '\\' then "\\\\"
  else if c = '\x08' then "\\b"
  else if c = '\t' then "\\t"
  else if c = '\n' then "\\n"
  else if c = '\x0c' then "\\f"
  else if c = '\r' then "\\r"
  else if c.toNat < 16 then "\\u000" ++ Text.hex c.toNat
  else if c.toNat < 32 then "\\u00" ++ Text.hex c.toNat
  else c.toString

/-- A string between double quotes. -/
def quoted (s : String) : String :=
  "\"" ++ String.join (s.toList.map escapeChar) ++ "\""

/-- A new line indented by a number of levels. -/
def newline (depth : Nat) : String :=
  "\n" ++ String.join (List.replicate depth "  ")

/-- Written items between brackets, one on each line. -/
def bracketed (opening closing : String) (depth : Nat) (items : List String) : String :=
  if items.isEmpty then opening ++ closing
  else
    opening ++ newline (depth + 1) ++ ("," ++ newline (depth + 1)).intercalate items ++
      newline depth ++ closing

mutual

/-- A value as text, at a nesting depth. -/
def prettyAt (depth : Nat) : JsonValue → String
  | .null => "null"
  | .bool b => if b then "true" else "false"
  | .number n => toString n
  | .string s => quoted s
  | .array items => bracketed "[" "]" depth (prettyItems (depth + 1) items)
  | .object fields => bracketed "\x7b" "\x7d" depth (prettyFields (depth + 1) fields)

/-- The items of an array as texts. -/
def prettyItems (depth : Nat) : List JsonValue → List String
  | [] => []
  | j :: js => prettyAt depth j :: prettyItems depth js

/-- The fields of an object as texts. -/
def prettyFields (depth : Nat) : List (String × JsonValue) → List String
  | [] => []
  | (k, j) :: fs => (quoted k ++ ": " ++ prettyAt depth j) :: prettyFields depth fs

end

/-- A value as text over several lines. -/
def pretty (j : JsonValue) : String :=
  j.prettyAt 0

/-- A number or null. -/
def ofNat? : Option Nat → JsonValue
  | none => .null
  | some n => .number n

end JsonValue

end CallAtlas
