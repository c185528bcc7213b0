/-!
# Tables keyed by bytes

A `KeyTable` lists its entries in the order of their keys, one entry for each key. Keys are byte
strings in lexicographic order. `rowKey` writes an id of 64 bits with its highest byte first, so the
order of keys is the order of ids.
-/

namespace CallAtlas

/-- A byte string. -/
abbrev Key := List UInt8

/-- The key of an id : eight bytes, the highest first. -/
def rowKey (id : Nat) : Key :=
  [56, 48, 40, 32, 24, 16, 8, 0].map fun shift => (id >>> shift).toUInt8

/-- Entries in the order of their keys. -/
abbrev KeyTable (α : Type) := List (Key × α)

namespace KeyTable

variable {α : Type}

/-- Set the value of a key. -/
def insert (key : Key) (value : α) : KeyTable α → KeyTable α
  | [] => [(key, value)]
  | e :: es =>
    if key < e.1 then (key, value) :: e :: es
    else if key = e.1 then (key, value) :: es
    else e :: insert key value es

/-- Remove a key. -/
def erase (t : KeyTable α) (key : Key) : KeyTable α :=
  t.filter (·.1 != key)

/-- The keys in order. -/
def keys (t : KeyTable α) : List Key :=
  t.map (·.1)

/-- The values in the order of their keys. -/
def values (t : KeyTable α) : List α :=
  t.map (·.2)

/-- Remove the keys of a table, then set the given entries one after another. -/
def replace (t : KeyTable α) (entries : List (Key × α)) : KeyTable α :=
  entries.foldl (fun t e => t.insert e.1 e.2) (t.keys.foldl erase t)

end KeyTable

end CallAtlas
