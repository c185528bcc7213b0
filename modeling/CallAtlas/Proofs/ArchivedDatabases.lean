import CallAtlas.Proofs.KeyedRows
import CallAtlas.Proofs.SelectionText
import CallAtlas.Proofs.TomlTexts

/-!
# Databases read back from text

A database is written as a TOML document with an array of rows for each table. Such a document is
read as its tables, whatever the texts in the rows (`Archive.parse?_tables`). A row of numbers with
64 bits is read back from its texts, and a table that was stored is made again of its own rows, so a
stored database is read back as it was (`Database.ofText?_toText`).
-/

namespace CallAtlas

namespace Archive

open Settings Settings.Toml Text Scanner

theorem toList_intercalate_cons (s : String) (ts : List String) :
    (", ".intercalate ((s :: ts).map quoted)).toList =
      (quoted s).toList ++ ts.flatMap fun t => ',' :: ([' '] ++ (quoted t).toList) := by
  induction ts generalizing s with
  | nil => simp
  | cons t ts ih =>
    have hcons : ", ".intercalate ((s :: t :: ts).map quoted) =
        quoted s ++ ", " ++ ", ".intercalate ((t :: ts).map quoted) := by
      rw [List.map_cons, List.map_cons, String.intercalate_cons_cons]
    rw [hcons, String.toList_append, String.toList_append, ih]
    simp

/-- The text of a row. -/
def rowText (texts : List String) : List Char :=
  '[' :: ((", ".intercalate (texts.map quoted)).toList ++ [']'])

/-- The value of a row. -/
def rowValue (texts : List String) : Value :=
  .list (texts.map .text)

theorem isItem_rowText (depth : Nat) (texts : List String) :
    IsItem (value (depth + 2)) (rowText texts, rowValue texts) := by
  refine isItem_array ?_
  cases texts with
  | nil => exact takes_array_nil (value_close _) isFill_nil
  | cons s ts =>
    have hblank : IsFill [' '] := by simp [IsFill]
    have hitems : ∀ x ∈ ((quoted s).toList, .text s) ::
        ts.map (fun t => ((quoted t).toList, .text t)), IsItem (value (depth + 1)) x := by
      intro x hx
      rcases List.mem_cons.mp hx with rfl | hx
      · exact isItem_text depth s
      · obtain ⟨t, -, rfl⟩ := List.mem_map.mp hx
        exact isItem_text depth t
    have harray := takes_array (value_close (depth + 1)) isFill_nil hblank (.inl rfl) _ _ hitems
    rw [toList_intercalate_cons]
    simpa [rowValue, List.flatMap_map, Function.comp_def] using harray

theorem takes_rows (depth : Nat) (rows : List (List String)) :
    Takes (array (value (depth + 2)))
      ('[' :: ('\n' :: rows.flatMap (fun r => ' ' :: ' ' :: (rowText r ++ [',', '\n'])) ++ [']']))
      (.list (rows.map rowValue)) := by
  have hline : IsFill ['\n'] := by simp [IsFill]
  have hindent : IsFill ['\n', ' ', ' '] := by simp [IsFill]
  cases rows with
  | nil => exact takes_array_nil (value_close _) hline
  | cons r rs =>
    have hitems : ∀ x ∈ (rowText r, rowValue r) :: rs.map (fun r => (rowText r, rowValue r)),
        IsItem (value (depth + 2)) x := by
      intro x hx
      rcases List.mem_cons.mp hx with rfl | hx
      · exact isItem_rowText depth r
      · obtain ⟨r, -, rfl⟩ := List.mem_map.mp hx
        exact isItem_rowText depth r
    have harray := takes_array (value_close (depth + 2)) hindent hindent
      (.inr ⟨['\n'], rfl, hline⟩) _ _ hitems
    -- each row hands the comma and the line end after it to the next one
    have hshift : ∀ rs : List (List String),
        ',' :: '\n' :: (rs.flatMap (fun r => ' ' :: ' ' :: (rowText r ++ [',', '\n'])) ++ [']']) =
          rs.flatMap (fun r => ',' :: '\n' :: ' ' :: ' ' :: rowText r) ++ [',', '\n', ']'] := by
      intro rs
      induction rs with
      | nil => rfl
      | cons r rs ih =>
        simp only [List.flatMap_cons, List.cons_append, List.append_assoc, List.nil_append, ih]
    simp only [List.flatMap_map, List.map_map, Function.comp_def, List.cons_append,
      List.append_assoc, List.nil_append] at harray
    simp only [List.flatMap_cons, List.cons_append, List.append_assoc, List.nil_append, hshift]
    exact harray

/-! ## Documents -/

/-- A table of texts and its name. -/
abbrev NamedRows := String × List (List String)

/-- The text of a table. -/
def namedText (x : NamedRows) : List Char :=
  x.1.toList ++ ' ' :: '=' :: ' ' :: ('[' ::
    ('\n' :: x.2.flatMap (fun r => ' ' :: ' ' :: (rowText r ++ [',', '\n'])) ++ [']'])) ++ ['\n']

/-- The value of a table. -/
def namedValue (x : NamedRows) : String × Value :=
  (x.1, .list (x.2.map rowValue))

/-- The entry of a table in a document. -/
def namedEntry (x : NamedRows) : String × Entry :=
  (x.1, .value (.list (x.2.map rowValue)))

/-- Tables with different names that can be keys. -/
structure AreNamed (tables : List NamedRows) : Prop where
  keys : ∀ x ∈ tables, IsKey x.1
  apart : (tables.map (·.1)).Nodup

theorem lines_tables {tables : List NamedRows} (h : AreNamed tables) {fields : Fields}
    (hnew : ∀ x ∈ tables, fields.lookup x.1 = none) {n : Nat} (hn : tables.length < n) :
    lines n ⟨fields, []⟩ (tables.flatMap namedText) =
      some (⟨fields ++ tables.map namedEntry, []⟩, []) := by
  induction tables generalizing fields n with
  | nil =>
    obtain ⟨n, rfl⟩ := Nat.exists_eq_add_of_lt hn
    rw [List.map_nil, List.append_nil]
    rfl
  | cons x tables ih =>
    obtain ⟨m, rfl⟩ := Nat.exists_eq_add_of_lt hn
    obtain ⟨hx, hkeys⟩ := List.forall_mem_cons.mp h.keys
    obtain ⟨hnewx, hnew⟩ := List.forall_mem_cons.mp hnew
    obtain ⟨hother, hapart⟩ := List.nodup_cons.mp h.apart
    have hassign : assignment ⟨fields, []⟩ (namedText x ++ tables.flatMap namedText) =
        some (⟨fields ++ [namedEntry x], []⟩, tables.flatMap namedText) :=
      assignment_eq hx (takes_value_of_array (takes_rows 77 x.2)) hnewx _
    have hlater : ∀ y ∈ tables, (fields ++ [namedEntry x]).lookup y.1 = none := by
      intro y hy
      have hne : (y.1 == x.1) = false :=
        beq_eq_false_iff_ne.mpr fun heq => hother (List.mem_map.mpr ⟨y, hy, heq⟩)
      simp [List.lookup_append, hnew y hy, namedEntry, List.lookup_cons, hne]
    have hmore := ih ⟨hkeys, hapart⟩ hlater (Nat.lt_add_of_pos_right (Nat.succ_pos m))
    have hfirst : ∀ k, lines (k + 1) ⟨fields, []⟩ (namedText x ++ tables.flatMap namedText) =
        (assignment ⟨fields, []⟩ (namedText x ++ tables.flatMap namedText)).bind
          fun y => lines k y.1 y.2 := by
      intro k
      obtain ⟨c, cs, hname⟩ := List.exists_cons_of_ne_nil hx.1
      rw [namedText, hname]
      exact lines_key (List.all_eq_true.mp hx.2 c (by simp [hname])) k _ _
    have hcount : (x :: tables).length + m = tables.length + m.succ := by
      rw [List.length_cons]
      omega
    rw [List.flatMap_cons, hfirst, hassign, Option.bind_some, hcount, hmore, List.map_cons,
      List.append_assoc]
    rfl

theorem fieldValues_tables (tables : List NamedRows) :
    fieldValues (tables.map namedEntry) = tables.map namedValue := by
  induction tables with
  | nil => rfl
  | cons x tables ih =>
    rw [List.map_cons, List.map_cons, ← ih]
    rfl

theorem length_le_flatMap (tables : List NamedRows) :
    tables.length ≤ (tables.flatMap namedText).length := by
  induction tables with
  | nil => exact Nat.zero_le _
  | cons x tables ih =>
    simp only [List.flatMap_cons, List.length_append, List.length_cons, namedText]
    omega

/-- No document of tables starts with a byte order mark. -/
theorem flatMap_ne_mark {tables : List NamedRows} (h : AreNamed tables) (cs : List Char) :
    tables.flatMap namedText ≠ '\ufeff' :: cs := by
  intro hcs
  cases tables with
  | nil => cases hcs
  | cons x tables =>
    obtain ⟨hne, hkey⟩ := h.keys x (by simp)
    obtain ⟨c, rest, hname⟩ := List.exists_cons_of_ne_nil hne
    have hc := notMem_of_isKeyChar (List.all_eq_true.mp hkey c (by simp [hname]))
    rw [List.flatMap_cons, namedText, hname] at hcs
    cases hcs
    simp [otherChars] at hc

/-- A document of tables is read as its tables. -/
theorem parse?_tables {tables : List NamedRows} (h : AreNamed tables) :
    parse? (String.ofList (tables.flatMap namedText)) = some (tables.map namedValue) := by
  have hnew : ∀ x ∈ tables, ([] : Fields).lookup x.1 = none := fun _ _ => rfl
  have hlines := lines_tables h hnew (Nat.lt_succ_of_le (length_le_flatMap tables))
  have hwhole : whole (lines ((tables.flatMap namedText).length + 1) {})
      (tables.flatMap namedText) = some ⟨tables.map namedEntry, []⟩ := by
    rw [whole]
    exact hlines ▸ rfl
  rw [parse?, String.toList_ofList]
  split
  · rename_i cs hcs
    exact absurd hcs (flatMap_ne_mark h cs)
  · rw [hwhole, Option.map_some, fieldValues_tables]

/-! ## Rows -/

theorem nat?_repr {n : Nat} (h : n < Decimal.wordLimit) : nat? n.repr = some n :=
  Decimal.word?_eq_some_iff.mpr (Decimal.isNumeral_repr h)

theorem owner?_ofNat? {o : Option Nat} (h : ∀ n ∈ o, n < Decimal.wordLimit) :
    owner? (ofNat? o) = some o := by
  cases o with
  | none => rfl
  | some n =>
    have hne : ¬(n.repr.isEmpty = true) := by
      rw [String.isEmpty_iff, ← String.toList_inj, Nat.toList_repr]
      exact Nat.toDigits_ne_nil
    change (if n.repr.isEmpty then some none else (nat? n.repr).map some) = _
    rw [if_neg hne, nat?_repr (h n rfl)]
    rfl

/-- A row that is read back from its texts. -/
def Keeps {ρ : Type} [Row ρ] (r : ρ) : Prop :=
  Row.ofTexts? (Row.toTexts r) = some r

theorem keeps_file {r : FileRow} (hid : r.id < Decimal.wordLimit)
    (hmod : r.modTime < Decimal.wordLimit) : Keeps r := by
  simp [Keeps, Row.ofTexts?, Row.toTexts, nat?_repr hid, nat?_repr hmod]

theorem keeps_entity {r : EntityRow} (hid : r.id < Decimal.wordLimit)
    (hfile : r.fileId < Decimal.wordLimit) (howner : ∀ n ∈ r.owner, n < Decimal.wordLimit) :
    Keeps r := by
  simp [Keeps, Row.ofTexts?, Row.toTexts, nat?_repr hid, nat?_repr hfile,
    owner?_ofNat? howner]

theorem keeps_call {r : CallRow} (hid : r.id < Decimal.wordLimit)
    (hcaller : r.caller < Decimal.wordLimit) (hcallee : r.callee < Decimal.wordLimit) :
    Keeps r := by
  simp [Keeps, Row.ofTexts?, Row.toTexts, nat?_repr hid, nat?_repr hcaller,
    nat?_repr hcallee]

section Table

variable {ρ : Type} [Row ρ]

/-- The texts of a table. -/
def namedRows (name : String) (t : KeyTable ρ) : NamedRows :=
  (name, t.values.map Row.toTexts)

theorem toList_tableText (name : String) (t : KeyTable ρ) :
    (tableText name t).toList = namedText (namedRows name t) := by
  simp [tableText, namedText, namedRows, rowLine, rowText, String.toList_join, List.flatMap_map]

theorem mapM_map_some {α β : Type} {f : β → Option α} {g : α → β} (l : List α)
    (h : ∀ a ∈ l, f (g a) = some a) : (l.map g).mapM f = some l := by
  induction l with
  | nil => rfl
  | cons a l ih =>
    obtain ⟨ha, hl⟩ := List.forall_mem_cons.mp h
    rw [List.map_cons, List.mapM_cons, ha, ih hl]
    rfl

theorem row?_rowValue {r : ρ} (h : Keeps r) : row? (rowValue (Row.toTexts r)) = some r := by
  rw [rowValue, row?, mapM_map_some]
  · exact h
  · intro s _
    rfl

theorem table?_eq {name : String} {t : KeyTable ρ} {fields : List (String × Value)}
    (hfields : fields.lookup name = some (namedValue (namedRows name t)).2)
    (hkeeps : ∀ r ∈ t.values, Keeps r) :
    table? name fields =
      some (KeyTable.replace [] (t.values.map fun r => (rowKey (Row.id r), r))) := by
  have hrows : (t.values.map fun r => rowValue (Row.toTexts r)).mapM row? = some t.values :=
    mapM_map_some _ fun r hr => row?_rowValue (hkeeps r hr)
  have hvalue : (namedValue (namedRows name t)).2 =
      .list (t.values.map fun r => rowValue (Row.toTexts r)) := by
    simp [namedValue, namedRows, Function.comp_def]
  rw [table?, hfields, hvalue]
  change ((t.values.map fun r => rowValue (Row.toTexts r)).mapM row?).bind _ = _
  rw [hrows]
  rfl

end Table

end Archive

/-- All numbers of the rows have 64 bits. -/
structure Catalog.HasWords (c : Catalog) : Prop where
  files : ∀ r ∈ c.files, r.id < Text.Decimal.wordLimit ∧ r.modTime < Text.Decimal.wordLimit
  entities : ∀ r ∈ c.entities, r.id < Text.Decimal.wordLimit ∧ r.fileId < Text.Decimal.wordLimit ∧
    ∀ n ∈ r.owner, n < Text.Decimal.wordLimit
  calls : ∀ r ∈ c.calls, r.id < Text.Decimal.wordLimit ∧ r.caller < Text.Decimal.wordLimit ∧
    r.callee < Text.Decimal.wordLimit

theorem Catalog.HasWords.fitsWords {c : Catalog} (h : c.HasWords) : c.FitsWords :=
  ⟨fun r hr => (h.files r hr).1, fun r hr => (h.entities r hr).1, fun r hr => (h.calls r hr).1⟩

namespace Database

open Archive

theorem toText_eq (d : Database) :
    d.toText = String.ofList ([namedRows "files" d.files, namedRows "entities" d.entities,
      namedRows "calls" d.calls].flatMap namedText) := by
  apply String.ext
  simp [toText, toList_tableText]

theorem ofText?_toText_of_keeps {d : Database} (hfiles : ∀ r ∈ d.files.values, Keeps r)
    (hentities : ∀ r ∈ d.entities.values, Keeps r) (hcalls : ∀ r ∈ d.calls.values, Keeps r) :
    ofText? d.toText = some {
      files := KeyTable.replace [] (d.files.values.map fun r => (rowKey r.id, r))
      entities := KeyTable.replace [] (d.entities.values.map fun r => (rowKey r.id, r))
      calls := KeyTable.replace [] (d.calls.values.map fun r => (rowKey r.id, r)) } := by
  have hnamed : AreNamed [namedRows "files" d.files, namedRows "entities" d.entities,
      namedRows "calls" d.calls] := by
    refine ⟨fun x hx => ?_, by simp [namedRows]⟩
    simp only [List.mem_cons, List.not_mem_nil, or_false] at hx
    rcases hx with rfl | rfl | rfl
    · exact (by decide : Settings.Toml.IsKey "files")
    · exact (by decide : Settings.Toml.IsKey "entities")
    · exact (by decide : Settings.Toml.IsKey "calls")
  rw [ofText?, toText_eq, parse?_tables hnamed, Option.bind_eq_bind, Option.bind_some]
  rw [table?_eq ?_ hfiles, table?_eq ?_ hentities, table?_eq ?_ hcalls]
  · rfl
  all_goals simp [namedValue, namedRows, List.lookup_cons]

/-- **A database is read back from its text.** Whatever it held before, a database with a catalog
comes back as it is, with any characters in names and paths. -/
theorem ofText?_toText (d : Database) {c : Catalog} (h : c.HasWords) :
    ofText? (d.store c).toText = some (d.store c) := by
  obtain ⟨hfiles, hentities, hcalls⟩ := h.fitsWords
  rw [ofText?_toText_of_keeps]
  · simp only [store]
    rw [KeyTable.replace_values _ _ _ hfiles, KeyTable.replace_values _ _ _ hentities,
      KeyTable.replace_values _ _ _ hcalls]
  · intro r hr
    rw [store, KeyTable.values_replace _ _ hfiles] at hr
    obtain ⟨hid, hmod⟩ := h.files r (mem_of_lastRow? (mem_latestRows.mp hr))
    exact keeps_file hid hmod
  · intro r hr
    rw [store, KeyTable.values_replace _ _ hentities] at hr
    obtain ⟨hid, hfile, howner⟩ := h.entities r (mem_of_lastRow? (mem_latestRows.mp hr))
    exact keeps_entity hid hfile howner
  · intro r hr
    rw [store, KeyTable.values_replace _ _ hcalls] at hr
    obtain ⟨hid, hcaller, hcallee⟩ := h.calls r (mem_of_lastRow? (mem_latestRows.mp hr))
    exact keeps_call hid hcaller hcallee

end Database

end CallAtlas
