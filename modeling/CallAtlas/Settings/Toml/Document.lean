import CallAtlas.Settings.Toml.Scalar

/-!
# TOML documents

`Toml.parse?` reads a TOML 1.0 text as a table. While a document is read, a table remembers how it
came to be : by a header of its own, implied by the header of a table inside it, or by a dotted key.
A key is set once; a table has one header at most; and a dotted key extends only tables that dotted
keys made. Values nest less than eighty levels deep, and a dotted key has less than eighty parts.
-/

namespace CallAtlas.Settings.Toml

open CallAtlas.Text
open Scanner

/-! ## Tables under construction -/

/-- How a table came to be. -/
inductive Origin where
  | header
  | implied
  | dotted
  deriving DecidableEq

/-- What a key stands for while a document is read. -/
inductive Entry where
  | value (v : Value)
  | table (origin : Origin) (fields : List (String × Entry))
  | tables (items : List (List (String × Entry)))

/-- The fields of a table under construction. -/
abbrev Fields := List (String × Entry)

mutual

/-- The value of an entry. -/
def Entry.toValue : Entry → Value
  | .value v => v
  | .table _ fields => .table (fieldValues fields)
  | .tables items => .list (tableValues items)

/-- The values of fields. -/
def fieldValues : List (String × Entry) → List (String × Value)
  | [] => []
  | (k, e) :: fs => (k, e.toValue) :: fieldValues fs

/-- The values of the tables of an array. -/
def tableValues : List (List (String × Entry)) → List Value
  | [] => []
  | fs :: rest => .table (fieldValues fs) :: tableValues rest

end

/-- Set a key, in its place if it is there, else at the end. -/
def setField (key : String) (e : Entry) : Fields → Fields
  | [] => [(key, e)]
  | f :: fs => if f.1 = key then (key, e) :: fs else f :: setField key e fs

/-- Change the last table of a list. -/
def updateLast (f : Fields → Option Fields) : List Fields → Option (List Fields)
  | [] => none
  | [t] => (f t).map ([·])
  | t :: ts => (updateLast f ts).map (t :: ·)

/-- Change the table at a path, making tables that are missing. A path of a header leads through
every table, and through an array to its last table. A dotted path leads only through tables without
a header. -/
def update (made : Origin) (act : Origin → Fields → Option Fields) :
    List String → Origin → Fields → Option Fields
  | [], origin, fields => act origin fields
  | key :: path, _, fields =>
    match fields.lookup key with
    | none =>
      (update made act path made []).map fun inner => setField key (.table made inner) fields
    | some (.value _) => none
    | some (.tables items) =>
      (updateLast (update made act path .header) items).map fun items =>
        setField key (.tables items) fields
    | some (.table origin inner) =>
      if made = .dotted && origin = .header then none
      else (update made act path origin inner).map fun inner =>
        setField key (.table origin inner) fields

/-- Set a key that is not set yet. -/
def insertNew (key : String) (e : Entry) (fields : Fields) : Option Fields :=
  if (fields.lookup key).isSome then none else some (setField key e fields)

/-- Set a value in a table. A key with several parts makes tables, and extends only such tables. -/
def setValue (path : List String) (key : String) (v : Value) (fields : Fields) : Option Fields :=
  update .dotted
    (fun origin inner =>
      if path.isEmpty || origin = .dotted then insertNew key (.value v) inner else none)
    path .header fields

/-- Give a table its header. -/
def openTable (path : List String) (key : String) (fields : Fields) : Option Fields :=
  update .implied
    (fun _ inner =>
      match inner.lookup key with
      | none => some (setField key (.table .header []) inner)
      | some (.table .implied own) => some (setField key (.table .header own) inner)
      | some _ => none)
    path .header fields

/-- Add a table to an array of tables. -/
def openItem (path : List String) (key : String) (fields : Fields) : Option Fields :=
  update .implied
    (fun _ inner =>
      match inner.lookup key with
      | none => some (setField key (.tables [[]]) inner)
      | some (.tables items) => some (setField key (.tables (items ++ [[]])) inner)
      | some _ => none)
    path .header fields

/-- Set a value in the table with the last header. -/
def setIn (table : List String) (path : List String) (key : String) (v : Value) (fields : Fields) :
    Option Fields :=
  update .implied (fun _ inner => setValue path key v inner) table .header fields

/-! ## Reading -/

/-- The limit of nesting. -/
def nestingLimit : Nat :=
  80

/-- A character of a key without quotes. -/
def isKeyChar (c : Char) : Bool :=
  c.isAlphanum || c == '-' || c == '_'

/-- Take one part of a key. -/
def keyPart : Scanner String := do
  gap
  let part ← basicString <|> literalString <|> (String.ofList <$> takeWhile1 isKeyChar)
  gap
  return part

/-- Take a key : the parts before the last one, and the last. -/
def key : Scanner (List String × String) := do
  let parts ← separated1 (char '.') keyPart
  require (parts.length < nestingLimit)
  match parts.getLast? with
  | some last => return (parts.dropLast, last)
  | none => failure

/-- Skip white space, line ends and comments. -/
def filler : Scanner Unit := do
  let _ ← many (newline <|> (do let _ ← satisfy isGap) <|> (do comment; newline))

/-- Take a key, an equals sign and a value. -/
def keyValue (value : Scanner Value) : Scanner ((List String × String) × Value) := do
  let k ← key
  char '='
  gap
  let v ← value
  gap
  return (k, v)

/-- Take the items of an array. -/
def array (value : Scanner Value) : Scanner Value := do
  char '['
  filler
  let items ← optional (separated1 (char ',') (do filler; let v ← value; filler; return v))
  if items.isSome then
    let _ ← optional (char ',')
  filler
  char ']'
  return .list (items.getD [])

/-- Take a table in braces, on one line. -/
def inlineTable (value : Scanner Value) : Scanner Value := do
  char '\x7b'
  let pairs ← optional (separated1 (char ',') (keyValue value))
  gap
  char '\x7d'
  let fields := (pairs.getD []).foldlM (fun fields ((path, k), v) => setValue path k v fields) []
  match fields with
  | some fields => return .table (fieldValues fields)
  | none => failure

/-- Take a value that nests less deep than a number of levels. -/
def value : Nat → Scanner Value
  | 0 => failure
  | 1 => scalar
  | depth + 2 => scalar <|> array (value (depth + 1)) <|> inlineTable (value (depth + 1))

/-- Take the rest of a line. -/
def lineEnd : Scanner Unit := do
  gap
  let _ ← optional comment
  if !(← atEnd) then newline

/-- A document while it is read : its fields, and the path of the table with the last header. -/
structure Draft where
  fields : Fields := []
  current : List String := []

/-- Take a step of a document : its next fields must be consistent. -/
def advance (fields : Option Fields) (current : List String) : Scanner Draft :=
  match fields with
  | some fields => return ⟨fields, current⟩
  | none => failure

/-- Take a header. -/
def header (d : Draft) : Scanner Draft := do
  let isItem ← reads (text "[[")
  if !isItem then char '['
  let (path, k) ← key
  text (if isItem then "]]" else "]")
  lineEnd
  advance ((if isItem then openItem else openTable) path k d.fields) (path ++ [k])

/-- Take a key with its value. -/
def assignment (d : Draft) : Scanner Draft := do
  let ((path, k), v) ← keyValue (value nestingLimit)
  lineEnd
  advance (setIn d.current path k v d.fields) d.current

/-- Take lines until nothing is left, at most a number of them. -/
def lines : Nat → Draft → Scanner Draft
  | 0, _ => failure
  | n + 1, d => do
    gap
    match ← peek with
    | none => return d
    | some '[' => lines n (← header d)
    | some '#' => lineEnd; lines n d
    | some '\n' => newline; lines n d
    | some '\r' => newline; lines n d
    | some _ => lines n (← assignment d)

/-- The table that a TOML text gives. A byte order mark in front is skipped. -/
def parse? (s : String) : Option (List (String × Value)) :=
  let cs := match s.toList with
    | '\ufeff' :: cs => cs
    | cs => cs
  (whole (lines (cs.length + 1) {}) cs).map fun d => fieldValues d.fields

end CallAtlas.Settings.Toml
