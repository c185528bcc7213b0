import Mathlib.Algebra.GroupWithZero.Nat
import Mathlib.Tactic.Convert
import Mathlib.Tactic.SplitIfs
import CallAtlas.Report.Table
import CallAtlas.Proofs.SelectionText

/-!
# The lines of a table

A character may take back columns that were counted for what follows it, so the width of a text is
not a sum over its characters. What can still be taken back is a debt of the context
(`Text.Width.debt`), and every step leaves at least the debt (`Text.Width.debt_step`), so no text
has a negative width. A blank or a bar takes one column wherever it stands and hides what follows it
(`Text.Width.columns_append_cons`). Widths therefore add up between the bars of a table, and all its
lines have their bars in the same columns (`Report.entityTable_aligned`).
-/

namespace CallAtlas

/-! ## Columns of a text -/

namespace Text.Width

/-- The columns that characters in front of a place may take back. -/
def debt : Following → Int
  | .joined .flagLetter => 1
  | .joined .oddFlagLetters => 1
  | .ligature .subscript _ => 1
  | .ligature .consonantAfterJoiner _ => 1
  | _ => 0

theorem debt_nonneg (f : Following) : 0 ≤ debt f := by
  unfold debt
  split <;> decide

/-- Columns that are counted, or taken back, where so much is owed, and the debt after that. -/
def IsPaid (owed : Int) (r : Int × Context) : Prop :=
  debt r.2.following ≤ owed + r.1

theorem isPaid_beforeLigature {l : Ligature} {joiner : Bool} {c : Char} {r : Int × Context}
    (h : beforeLigature? l joiner c = some r) : IsPaid (debt (.ligature l joiner)) r := by
  unfold beforeLigature? at h
  cases l <;> simp only at h <;> split_ifs at h <;> cases h <;> simp [IsPaid, debt, Context.plain]

theorem isPaid_beforeJoined {j : Joined} {c : Char} {r : Int × Context}
    (h : beforeJoined? j c = some r) : IsPaid (debt (.joined j)) r := by
  cases j with
  | keycap => cases h
  | _ =>
    simp only [beforeJoined?] at h
    split_ifs at h <;> cases h <;> simp [IsPaid, debt]

theorem isPaid_inShape {c : Char} {f : Following} {r : Int × Context}
    (h : inShape? c f = some r) : IsPaid (debt f) r := by
  cases f with
  | plain => cases h
  | lineFeed => cases h
  | joined j => exact isPaid_beforeJoined h
  | ligature l joiner => exact isPaid_beforeLigature h
  | _ =>
    simp only [inShape?] at h
    split_ifs at h <;> cases h <;> simp [IsPaid, debt]

theorem isPaid_alone (c : Char) : IsPaid 0 (alone c) := by
  unfold alone
  cases ligature? c with
  | some l => cases l <;> simp [IsPaid, debt]
  | none =>
    simp only
    split_ifs <;> simp [IsPaid, debt, Context.plain]

theorem IsPaid.mono {owed owed' : Int} {r : Int × Context} (h : IsPaid owed r)
    (hle : owed ≤ owed') : IsPaid owed' r := by
  unfold IsPaid at h ⊢
  omega

theorem isPaid_of_no_debt {owed columns : Int} {context : Context} (howed : 0 ≤ owed)
    (hcolumns : 0 ≤ columns) (h : debt context.following = 0) : IsPaid owed (columns, context) := by
  change debt context.following ≤ owed + columns
  omega

theorem isPaid_shape (c : Char) (f : Following) :
    IsPaid (debt f) ((inShape? c f).getD (alone c)) := by
  cases h : inShape? c f with
  | none => exact (isPaid_alone c).mono (debt_nonneg f)
  | some r => exact isPaid_inShape h

theorem debt_unselected (next : Context) :
    debt next.unselected.following ≤ debt next.following := by
  unfold Context.unselected
  split_ifs
  · exact Int.le_refl _
  · exact debt_nonneg _

theorem debt_select (next : Context) (s : Selector) :
    debt (next.select s).following ≤ debt next.following := by
  unfold Context.select
  split_ifs
  · exact Int.le_refl _
  · exact debt_nonneg _

/-- A character pays for the debt that it leaves. -/
theorem isPaid_step (c : Char) (next : Context) : IsPaid (debt next.following) (step c next) := by
  unfold step
  by_cases hstyled : (next.selector = some .emoji && Emoji.hasStyles c) = true
  · rw [if_pos hstyled]
    exact isPaid_of_no_debt (debt_nonneg _) (by split_ifs <;> decide) rfl
  · rw [if_neg hstyled]
    generalize hrest : (if next.selector = some .emoji then next.unselected else next) = rest
    have hle : debt rest.following ≤ debt next.following := by
      rw [← hrest]
      split_ifs
      · exact debt_unselected next
      · exact Int.le_refl _
    have howed := debt_nonneg rest.following
    refine IsPaid.mono ?_ hle
    simp only
    split_ifs
    · exact isPaid_of_no_debt howed (by decide) rfl
    · exact isPaid_of_no_debt howed (by decide) rfl
    · exact isPaid_of_no_debt howed (by decide) rfl
    · simpa [IsPaid] using debt_select rest .emoji
    · simpa [IsPaid] using debt_select rest .text
    · exact isPaid_of_no_debt howed (by decide) rfl
    · exact isPaid_of_no_debt howed (by decide) rfl
    · exact (isPaid_shape c rest.unselected.following).mono (debt_unselected rest)
    · exact isPaid_shape c rest.following

/-- The columns of the characters of a text. -/
def columns (cs : List Char) : Int :=
  (cs.foldr ofString.add (0, .plain)).1

theorem debt_le_columns (cs : List Char) :
    debt (cs.foldr ofString.add (0, .plain)).2.following ≤ columns cs := by
  induction cs with
  | nil => decide
  | cons c cs ih =>
    have hstep := isPaid_step c (cs.foldr ofString.add (0, .plain)).2
    simp only [columns, List.foldr_cons, ofString.add, IsPaid] at hstep ih ⊢
    omega

theorem columns_nonneg (cs : List Char) : 0 ≤ columns cs :=
  Int.le_trans (debt_nonneg _) (debt_le_columns cs)

theorem coe_ofString (s : String) : (ofString s : Int) = columns s.toList :=
  Int.toNat_of_nonneg (columns_nonneg _)

/-- What was counted before does not change what is counted. -/
theorem foldr_add_eq (cs : List Char) (n : Int) (context : Context) :
    cs.foldr ofString.add (n, context) =
      ((cs.foldr ofString.add (0, context)).1 + n, (cs.foldr ofString.add (0, context)).2) := by
  induction cs with
  | nil => simp
  | cons c cs ih =>
    rw [List.foldr_cons, List.foldr_cons, ih]
    simp only [ofString.add]
    congr 1
    omega

/-- A character that takes one column wherever it stands, and hides what follows it. -/
def IsPlain (c : Char) : Prop :=
  ∀ next, step c next = (1, .plain)

theorem columns_append_cons {c : Char} (hc : IsPlain c) (cs ds : List Char) :
    columns (cs ++ c :: ds) = columns cs + 1 + columns ds := by
  rw [columns, List.foldr_append, List.foldr_cons, ofString.add, hc, foldr_add_eq]
  change columns cs + (columns ds + 1) = _
  omega

theorem isPlain_of {c : Char} (hcode : c.toNat ≤ 0xa0) (hline : c ≠ '\n') (hreturn : c ≠ '\r')
    (hstyle : Emoji.hasStyles c = false) : IsPlain c := by
  intro next
  simp [step, hcode, hline, hreturn, hstyle]

theorem isPlain_blank : IsPlain ' ' :=
  isPlain_of (by decide) (by decide) (by decide) (by decide)

theorem isPlain_bar : IsPlain '|' :=
  isPlain_of (by decide) (by decide) (by decide) (by decide)

theorem isPlain_dash : IsPlain '-' :=
  isPlain_of (by decide) (by decide) (by decide) (by decide)

theorem columns_append_replicate {c : Char} (hc : IsPlain c) (cs : List Char) (n : Nat) :
    columns (cs ++ List.replicate n c) = columns cs + n := by
  induction n generalizing cs with
  | zero => simp
  | succ n ih =>
    have hrun := ih []
    rw [List.nil_append] at hrun
    rw [List.replicate_succ, columns_append_cons hc, hrun]
    simp [columns]
    omega

end Text.Width

/-! ## Tables -/

namespace Report

open Text.Width

theorem ofString_padTo {width : Nat} {line : String} (h : ofString line ≤ width) :
    ofString (padTo width line) = width := by
  have hcolumns : (ofString (padTo width line) : Int) =
      ofString line + (width - ofString line : Nat) := by
    rw [coe_ofString, coe_ofString, padTo, String.toList_append, String.toList_ofList,
      columns_append_replicate isPlain_blank]
  omega

/-- The cells of a row fit widths. -/
abbrev FitsRow (widths : List Nat) (row : List Cell) : Prop :=
  List.Forall₂ (fun c w => cellWidth c ≤ w) row widths

/-- The widths are the least ones that all rows fit. -/
structure Fits (rows : List (List Cell)) (widths : List Nat) : Prop where
  all : ∀ row ∈ rows, FitsRow widths row
  least : ∀ others, (∀ row ∈ rows, FitsRow others row) → List.Forall₂ (· ≤ ·) widths others

theorem FitsRow.mono {widths others : List Nat} {row : List Cell} (h : FitsRow widths row)
    (hle : List.Forall₂ (· ≤ ·) widths others) : FitsRow others row := by
  induction h generalizing others with
  | nil =>
    cases hle
    exact .nil
  | cons hc _ ih =>
    cases hle with
    | cons hw hrest => exact .cons (Nat.le_trans hc hw) (ih hrest)

/-- The widths that one more row needs. -/
def widen (widths : List Nat) (row : List Cell) : List Nat :=
  List.zipWith (fun w c => max w (cellWidth c)) widths row

theorem widen_spec {widths : List Nat} {row : List Cell} (h : row.length = widths.length) :
    List.Forall₂ (· ≤ ·) widths (widen widths row) ∧ FitsRow (widen widths row) row ∧
    ∀ others, List.Forall₂ (· ≤ ·) widths others → FitsRow others row →
      List.Forall₂ (· ≤ ·) (widen widths row) others := by
  induction widths generalizing row with
  | nil =>
    obtain rfl : row = [] := List.eq_nil_of_length_eq_zero h
    exact ⟨.nil, .nil, fun others hothers _ => hothers⟩
  | cons w widths ih =>
    cases row with
    | nil => cases h
    | cons c row =>
      obtain ⟨hle, hfits, hleast⟩ := ih (Nat.succ.inj h)
      refine ⟨.cons (Nat.le_max_left ..) hle, .cons (Nat.le_max_right ..) hfits,
        fun others hw hc => ?_⟩
      cases hw with
      | cons hw hothers =>
        cases hc with
        | cons hc hrow => exact .cons (Nat.max_le.mpr ⟨hw, hc⟩) (hleast _ hothers hrow)

/-- A row more, and the widths that it needs. -/
theorem Fits.concat {rows : List (List Cell)} {widths : List Nat} (h : Fits rows widths)
    {row : List Cell} (hrow : row.length = widths.length) :
    Fits (rows ++ [row]) (widen widths row) := by
  obtain ⟨hle, hfits, hleast⟩ := widen_spec hrow
  refine ⟨fun r hr => ?_, fun others hothers => ?_⟩
  · rcases List.mem_append.mp hr with hr | hr
    · exact (h.all r hr).mono hle
    · rw [List.mem_singleton.mp hr]
      exact hfits
  · refine hleast others (h.least others fun r hr => ?_) (hothers row (by simp))
    exact hothers r (List.mem_append_left _ hr)

theorem fits_foldl {widths : List Nat} (rows : List (List Cell))
    (hrows : ∀ row ∈ rows, row.length = widths.length) {before : List (List Cell)}
    (h : Fits before widths) : Fits (before ++ rows) (rows.foldl widen widths) := by
  induction rows generalizing widths before with
  | nil => simpa using h
  | cons row rows ih =>
    obtain ⟨hrow, hrows⟩ := List.forall_mem_cons.mp hrows
    have hlength : (widen widths row).length = widths.length := by
      rw [widen, List.length_zipWith, hrow, Nat.min_self]
    rw [List.foldl_cons, List.append_cons]
    exact ih (fun r hr => (hrows r hr).trans hlength.symm) (h.concat hrow)

theorem fits_columnWidths {header : List Cell} {rows : List (List Cell)}
    (hrows : ∀ row ∈ rows, row.length = header.length) :
    Fits (header :: rows) (columnWidths (header :: rows)) := by
  have hheader : Fits [header] (header.map cellWidth) := by
    refine ⟨fun row hrow => ?_, fun others hothers => ?_⟩
    · rw [List.mem_singleton.mp hrow, FitsRow, List.forall₂_map_right_iff]
      exact List.forall₂_same.mpr fun _ _ => Nat.le_refl _
    · rw [List.forall₂_map_left_iff]
      exact hothers header (by simp)
  have hall : ∀ row ∈ header :: rows, row.length = (header.map cellWidth).length := by
    simpa using hrows
  obtain ⟨hfits, hleast⟩ := fits_foldl (header :: rows) hall hheader
  refine ⟨fun row hrow => hfits row (List.mem_cons_of_mem _ hrow), fun others hothers => ?_⟩
  refine hleast others fun row hrow => hothers row ?_
  rcases List.mem_cons.mp hrow with rfl | hrow
  · exact List.mem_cons_self
  · exact hrow

/-- What stands between two bars and the second of them : a column with a blank on each side. -/
def IsPart (width : Nat) (part : String) : Prop :=
  ofString part = width + 3 ∧ part.toList.getLast? = some '|'

/-- A line whose bars stand at the ends of columns. -/
def IsAligned (widths : List Nat) (line : String) : Prop :=
  ∃ parts, line = "|" ++ String.join parts ∧ List.Forall₂ IsPart widths parts

/-- Nothing before a bar takes back what was counted after it. -/
theorem columns_append_of_bar {cs : List Char} (h : cs.getLast? = some '|') (ds : List Char) :
    columns (cs ++ ds) = columns cs + columns ds := by
  obtain ⟨front, rfl⟩ := List.getLast?_eq_some_iff.mp h
  rw [← List.append_cons, columns_append_cons isPlain_bar, columns_append_cons isPlain_bar]
  simp [columns]

theorem isPart_of_columns {width : Nat} {front : List Char} (h : columns front = width + 2) :
    IsPart width (String.ofList (front ++ ['|'])) := by
  have hcolumns := coe_ofString (String.ofList (front ++ ['|']))
  rw [String.toList_ofList, columns_append_cons isPlain_bar, h] at hcolumns
  refine ⟨?_, by simp⟩
  simp only [columns, List.foldr_nil] at hcolumns
  omega

theorem isPart_cell {width : Nat} {line : String} (h : ofString line ≤ width) :
    IsPart width (" " ++ padTo width line ++ " |") := by
  have hpad := coe_ofString (padTo width line)
  rw [ofString_padTo h] at hpad
  have hfront : columns ([] ++ ' ' :: ((padTo width line).toList ++ [' '])) = width + 2 := by
    rw [columns_append_cons isPlain_blank, columns_append_cons isPlain_blank, ← hpad]
    simp only [columns, List.foldr_nil]
    omega
  convert isPart_of_columns hfront using 1
  apply String.ext
  simp

theorem isPart_rule (width : Nat) :
    IsPart width (String.ofList (List.replicate (width + 2) '-') ++ "|") := by
  have hfront : columns (List.replicate (width + 2) '-') = width + 2 := by
    rw [← List.nil_append (List.replicate _ _), columns_append_replicate isPlain_dash]
    simp [columns]
  convert isPart_of_columns hfront using 1
  apply String.ext
  simp

/-- An aligned line is as wide as its columns and bars. -/
theorem IsAligned.ofString_eq {widths : List Nat} {line : String} (h : IsAligned widths line) :
    ofString line = 1 + (widths.map (· + 3)).sum := by
  obtain ⟨parts, rfl, hparts⟩ := h
  have hsum : columns (String.join parts).toList = ((widths.map (· + 3)).sum : Nat) := by
    induction hparts with
    | nil => rfl
    | @cons w part widths parts hpart _ ih =>
      have hwidth := coe_ofString part
      rw [hpart.1] at hwidth
      rw [String.join_cons, String.toList_append, columns_append_of_bar hpart.2, ih, ← hwidth,
        List.map_cons, List.sum_cons]
      omega
  have hline := coe_ofString ("|" ++ String.join parts)
  have hbar : columns "|".toList = 1 := by decide
  rw [String.toList_append, columns_append_of_bar rfl, hsum, hbar] at hline
  omega

theorem le_foldl_max (l : List Nat) (m : Nat) :
    m ≤ l.foldl max m ∧ ∀ n ∈ l, n ≤ l.foldl max m := by
  induction l generalizing m with
  | nil => simp
  | cons n l ih =>
    obtain ⟨hstart, hall⟩ := ih (max m n)
    rw [List.foldl_cons]
    refine ⟨Nat.le_trans (Nat.le_max_left m n) hstart, fun k hk => ?_⟩
    rcases List.mem_cons.mp hk with rfl | hk
    · exact Nat.le_trans (Nat.le_max_right m k) hstart
    · exact hall k hk

theorem ofString_getD_le_cellWidth (cell : Cell) (i : Nat) :
    ofString (cell[i]?.getD "") ≤ cellWidth cell := by
  cases hi : cell[i]? with
  | none => exact Nat.zero_le _
  | some line =>
    have hline := List.mem_map_of_mem (f := ofString) (List.mem_of_getElem? hi)
    exact (le_foldl_max (cell.map ofString) 0).2 _ hline

theorem isAligned_ruleLine (widths : List Nat) : IsAligned widths (ruleLine widths) := by
  refine ⟨_, rfl, ?_⟩
  rw [List.forall₂_map_right_iff]
  exact List.forall₂_same.mpr fun w _ => isPart_rule w

theorem isAligned_rowLines {widths : List Nat} {row : List Cell} (h : FitsRow widths row)
    {line : String} (hline : line ∈ rowLines widths row) : IsAligned widths line := by
  obtain ⟨i, -, rfl⟩ := List.mem_map.mp hline
  clear hline
  refine ⟨_, rfl, ?_⟩
  rw [List.forall₂_map_right_iff]
  induction h with
  | nil => exact .nil
  | @cons c w row widths hc _ ih =>
    exact .cons (isPart_cell (Nat.le_trans (ofString_getD_le_cellWidth c i) hc)) ih

/-! ## The lines of the entity table -/

theorem newline_notMem_ruleLine (widths : List Nat) : '\n' ∉ (ruleLine widths).toList := by
  simp [ruleLine, String.toList_join]

theorem newline_notMem_tableLine {columns : List (Nat × String)}
    (h : ∀ x ∈ columns, '\n' ∉ x.2.toList) : '\n' ∉ (tableLine columns).toList := by
  have hpart : ∀ x ∈ columns, '\n' ∉ (" " ++ padTo x.1 x.2 ++ " |").toList := by
    intro x hx
    simp [padTo, h x hx]
  rw [tableLine, String.toList_append, String.toList_join, List.mem_append]
  rintro (hbar | hcells)
  · simp at hbar
  · obtain ⟨part, hmem, hnewline⟩ := List.mem_flatMap.mp hcells
    obtain ⟨x, hx, rfl⟩ := List.mem_map.mp hmem
    exact hpart x hx hnewline

/-- The lines of a cell have no line ends in them. -/
def IsCell (c : Cell) : Prop :=
  ∀ line ∈ c, '\n' ∉ line.toList

theorem isCell_cell (text : String) : IsCell (cell text) := by
  intro line hline
  obtain ⟨part, hpart, rfl⟩ := List.mem_map.mp hline
  rw [String.toList_ofList]
  exact Text.notMem_of_mem_splitOn hpart

theorem newline_notMem_rowLines {widths : List Nat} {row : List Cell} (h : ∀ c ∈ row, IsCell c)
    {line : String} (hline : line ∈ rowLines widths row) : '\n' ∉ line.toList := by
  obtain ⟨i, -, rfl⟩ := List.mem_map.mp hline
  refine newline_notMem_tableLine fun x hx => ?_
  obtain ⟨cell, hcell, hx⟩ := List.mem_map.mp (List.of_mem_zip hx).2
  rw [← hx]
  cases hi : cell[i]? with
  | none => simp
  | some line => exact h cell hcell line (List.mem_of_getElem? hi)

/-- The lines of a table : those of the header, a rule, and those of each row. -/
def tableLines (header : List Cell) (rows : List (List Cell)) : List String :=
  let widths := columnWidths (header :: rows)
  rowLines widths header ++ [ruleLine widths] ++ rows.flatMap (rowLines widths)

theorem splitOn_table {header : List Cell} {rows : List (List Cell)}
    (h : ∀ row ∈ header :: rows, ∀ c ∈ row, IsCell c) :
    Text.splitOn '\n' (table header rows).toList = (tableLines header rows).map String.toList := by
  have hlines : ∀ line ∈ tableLines header rows, '\n' ∉ line.toList := by
    intro line hline
    rw [tableLines, List.mem_append, List.mem_append, List.mem_singleton] at hline
    rcases hline with (hline | rfl) | hline
    · exact newline_notMem_rowLines (h header List.mem_cons_self) hline
    · exact newline_notMem_ruleLine _
    · obtain ⟨row, hrow, hline⟩ := List.mem_flatMap.mp hline
      exact newline_notMem_rowLines (h row (List.mem_cons_of_mem _ hrow)) hline
  have htable : table header rows = "\n".intercalate (tableLines header rows) := rfl
  rw [Text.splitOn_eq, htable, String.toList_intercalate]
  exact List.splitOn_intercalate '\n' (by simpa using hlines) (by simp [tableLines])

theorem isAligned_tableLines {header : List Cell} {rows : List (List Cell)}
    (h : ∀ row ∈ rows, row.length = header.length) {line : String}
    (hline : line ∈ tableLines header rows) :
    IsAligned (columnWidths (header :: rows)) line := by
  have hfits := (fits_columnWidths h).all
  rw [tableLines, List.mem_append, List.mem_append, List.mem_singleton] at hline
  rcases hline with (hline | rfl) | hline
  · exact isAligned_rowLines (hfits header List.mem_cons_self) hline
  · exact isAligned_ruleLine _
  · obtain ⟨row, hrow, hline⟩ := List.mem_flatMap.mp hline
    exact isAligned_rowLines (hfits row (List.mem_cons_of_mem _ hrow)) hline

/-- The titles of the columns of the entity table. -/
def titles : List Cell :=
  ["entityID", "name", "type", "import path"].map cell

/-- The rows of the entity table. -/
def entityRows (p : Projection) : List (List Cell) :=
  p.toList.map fun x => entityRow x.1 x.2

/-- **The entity table is aligned.** Its columns are as wide as their cells need, titles included,
and no wider. Its lines are those of the titles, a rule, and those of each shown entity by ascending
id. They all have their bars in the same columns and are equally wide, whatever the characters in
names and paths. -/
theorem entityTable_aligned (p : Projection) :
    ∃ widths, Fits (titles :: entityRows p) widths ∧
      Text.splitOn '\n' (entityTable p).toList =
        (rowLines widths titles ++ [ruleLine widths] ++
          (entityRows p).flatMap (rowLines widths)).map String.toList ∧
      ∀ line ∈ Text.splitOn '\n' (entityTable p).toList,
        IsAligned widths (String.ofList line) ∧
        ofString (String.ofList line) = 1 + (widths.map (· + 3)).sum := by
  have hlength : ∀ row ∈ entityRows p, row.length = titles.length := by
    intro row hrow
    obtain ⟨x, -, rfl⟩ := List.mem_map.mp hrow
    rfl
  have hcells : ∀ row ∈ titles :: entityRows p, ∀ c ∈ row, IsCell c := by
    intro row hrow c hc
    rcases List.mem_cons.mp hrow with rfl | hrow
    · obtain ⟨text, -, rfl⟩ := List.mem_map.mp hc
      exact isCell_cell text
    · obtain ⟨x, -, rfl⟩ := List.mem_map.mp hrow
      simp only [entityRow, List.mem_cons, List.not_mem_nil, or_false] at hc
      rcases hc with rfl | rfl | rfl | rfl <;> exact isCell_cell _
  have hsplit : Text.splitOn '\n' (entityTable p).toList =
      (tableLines titles (entityRows p)).map String.toList := splitOn_table hcells
  refine ⟨columnWidths (titles :: entityRows p), fits_columnWidths hlength, hsplit, ?_⟩
  intro cs hcs
  rw [hsplit] at hcs
  obtain ⟨line, hline, rfl⟩ := List.mem_map.mp hcs
  have haligned := isAligned_tableLines hlength hline
  rw [String.ofList_toList]
  exact ⟨haligned, haligned.ofString_eq⟩

end Report

end CallAtlas
