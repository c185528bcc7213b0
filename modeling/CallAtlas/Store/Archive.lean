import CallAtlas.Settings.Toml.Document
import CallAtlas.Store.Database
import CallAtlas.Text.Quoted

/-!
# Databases as text

`Database.toText` writes a database as a TOML text : three arrays of rows, and each row an array of
texts. `Database.ofText?` reads it.
-/

namespace CallAtlas

namespace Archive

open Settings

/-- A cataloged row as texts. -/
class Row (ρ : Type) where
  id : ρ → Nat
  toTexts : ρ → List String
  ofTexts? : List String → Option ρ

/-- The text of a number that may be missing. -/
def ofNat? : Option Nat → String
  | none => ""
  | some n => toString n

/-- A number. -/
def nat? (s : String) : Option Nat :=
  Text.Decimal.word? s.toList

/-- A number that may be missing. -/
def owner? (s : String) : Option (Option Nat) :=
  if s.isEmpty then some none else (nat? s).map some

instance : Row FileRow where
  id := (·.id)
  toTexts r := [toString r.id, r.fullPath, r.importPath, toString r.modTime]
  ofTexts?
    | [id, fullPath, importPath, modTime] => do
      return { id := ← nat? id, fullPath, importPath, modTime := ← nat? modTime }
    | _ => none

instance : Row EntityRow where
  id := (·.id)
  toTexts r :=
    [toString r.id, toString r.fileId, r.name, r.kind.name, r.importPath, ofNat? r.owner]
  ofTexts?
    | [id, fileId, name, kind, importPath, owner] => do
      return {
        id := ← nat? id, fileId := ← nat? fileId, name, kind := ← Kind.ofName? kind, importPath,
        owner := ← owner? owner }
    | _ => none

instance : Row CallRow where
  id := (·.id)
  toTexts r := [toString r.id, toString r.caller, toString r.callee, r.key]
  ofTexts?
    | [id, caller, callee, key] => do
      return { id := ← nat? id, caller := ← nat? caller, callee := ← nat? callee, key }
    | _ => none

/-- How one character is written in a TOML string. -/
def escapeChar (c : Char) : String :=
  if c = '"' then "\\\""
  else if c = '\\' then "\\\\"
  else if c.toNat < 16 then "\\u000" ++ Text.hex c.toNat
  else if c.toNat < 32 || c = '\x7f' then "\\u00" ++ Text.hex c.toNat
  else c.toString

/-- A TOML string. -/
def quoted (s : String) : String :=
  "\"" ++ String.join (s.toList.map escapeChar) ++ "\""

/-- The line of a row. -/
def rowLine (texts : List String) : String :=
  "  [" ++ ", ".intercalate (texts.map quoted) ++ "],\n"

/-- The array of a table. -/
def tableText {ρ : Type} [Row ρ] (name : String) (t : KeyTable ρ) : String :=
  name ++ " = [\n" ++ String.join (t.values.map fun r => rowLine (Row.toTexts r)) ++ "]\n"

/-- The row of an array of texts. -/
def row? {ρ : Type} [Row ρ] : Value → Option ρ
  | .list items => do
    let texts ← items.mapM fun
      | .text s => some s
      | _ => none
    Row.ofTexts? texts
  | _ => none

/-- The table of an array. -/
def table? {ρ : Type} [Row ρ] (name : String) (fields : List (String × Value)) :
    Option (KeyTable ρ) := do
  match ← fields.lookup name with
  | .list items =>
    let rows ← items.mapM row?
    return KeyTable.replace [] (rows.map fun r => (rowKey (Row.id r), r))
  | _ => none

end Archive

namespace Database

/-- A database as text. -/
def toText (d : Database) : String :=
  Archive.tableText "files" d.files ++ Archive.tableText "entities" d.entities ++
    Archive.tableText "calls" d.calls

/-- The database that a text gives. -/
def ofText? (s : String) : Option Database := do
  let fields ← Settings.Toml.parse? s
  return {
    files := ← Archive.table? "files" fields
    entities := ← Archive.table? "entities" fields
    calls := ← Archive.table? "calls" fields }

end Database

end CallAtlas
