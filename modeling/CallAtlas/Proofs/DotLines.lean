import Mathlib.Tactic.SplitIfs
import CallAtlas.Drawing.Dot
import CallAtlas.Proofs.ClusterNames
import CallAtlas.Proofs.ScannedTexts

/-!
# The lines of a DOT text

A DOT text has eight sorts of lines (`Dot.Line`). `Dot.Line.text` writes a line and `Dot.Line.read?`
reads one, whatever its indentation : a line is told by its first word, and no such word starts with
another, so every written line reads back (`Dot.Line.read?_indent`). A written text has no line ends
in it (`Dot.Line.newline_notMem_text`).
-/

namespace CallAtlas

/-! ## Lines -/

namespace Dot

open Text Scanner

/-- A line of a DOT text. -/
inductive Line where
  | graph (name : String)
  | compound
  | rankDir (dir : RankDir)
  | cluster (name : String)
  | label (text : String)
  | node (n : Node)
  | edge (e : Edge)
  | close
  deriving DecidableEq, Repr

/-- How a line is written, without its indentation. -/
def Line.text : Line → String
  | .graph name => "digraph " ++ quoted name ++ " \x7b"
  | .compound => "compound=true;"
  | .rankDir dir => "rankdir=" ++ dir.name ++ ";"
  | .cluster name => "subgraph " ++ quoted name ++ " \x7b"
  | .label text => "label=" ++ quoted text ++ ";"
  | .node n => nodeLine n
  | .edge e => edgeLine e
  | .close => "\x7d"

/-- Take a text of which the opening quote is taken. -/
def openedText : Scanner String := do
  let s ← (readQuoted : Scanner (List Char))
  return String.ofList s

/-- Take a text between double quotes. -/
def quotedText : Scanner String := do
  text "\""
  openedText

/-- The number that is written as a text. -/
def number? (s : String) : Option Nat :=
  let n := Nat.ofDigitChars 10 s.toList 0
  if toString n = s then some n else none

/-- Take a number of which the opening quote is taken. -/
def openedNumber : Scanner Nat := do
  StateT.lift (number? (← openedText))

/-- Take a node after its id and the start of its label. -/
def nodeRest (entity : Nat) : Scanner Line := do
  let label ← quotedText
  let highlighted ← choose [(fill false ++ "];", pure false), (fill true ++ "];", pure true)]
  return .node ⟨entity, label, highlighted⟩

/-- Take an edge after its source and the arrow. -/
def edgeRest (source : Nat) : Scanner Line := do
  text "\""
  let target ← openedNumber
  text " [style="
  let style ← choose [(EdgeStyle.solid.name, pure .solid), (EdgeStyle.dashed.name, pure .dashed)]
  text ", color="
  let color ← quotedText
  text "];"
  return .edge ⟨source, target, style, color⟩

/-- Take the quoted text of a line and what closes the line. -/
def textRest (make : String → Line) (close : String) : Scanner Line := do
  let s ← quotedText
  text close
  return make s

/-- Take the word for a direction and what closes the line. -/
def dirRest : Scanner Line := do
  let dir ← choose (RankDir.all.map fun dir => (dir.name, pure dir))
  text ";"
  return .rankDir dir

/-- Take a node or an edge after the opening quote of its first id. -/
def joinRest : Scanner Line := do
  let id ← openedNumber
  choose [(" [label=", nodeRest id), (" -> ", edgeRest id)]

/-- The first words of lines, and what comes after them. -/
def openings : List (String × Scanner Line) := [
  ("digraph ", textRest .graph " \x7b"),
  ("compound=true;", pure .compound),
  ("rankdir=", dirRest),
  ("subgraph ", textRest .cluster " \x7b"),
  ("label=", textRest .label ";"),
  ("\"", joinRest),
  ("\x7d", pure .close)]

/-- The line that a text gives, whatever its indentation. -/
def Line.read? (cs : List Char) : Option Line :=
  whole (choose openings) (cs.dropWhile (· == ' '))

/-! ## Written lines read back -/

theorem toList_quoted (s : String) :
    (quoted s).toList = "\"".toList ++ (escape s.toList ++ ['"']) := by
  simp [quoted]

theorem takes_openedText (s : String) : Takes openedText (escape s.toList ++ ['"']) s := by
  have hread : Takes (readQuoted : Scanner (List Char)) (escape s.toList ++ ['"']) s.toList := by
    intro rest
    simpa using readQuoted_escape s.toList rest
  have hall : Takes openedText (_ ++ []) _ := hread.bind (takes_pure (String.ofList s.toList))
  rwa [List.append_nil, String.ofList_toList] at hall

theorem takes_quotedText (s : String) : Takes quotedText (quoted s).toList s := by
  rw [toList_quoted]
  exact (takes_text "\"").bind (takes_openedText s)

theorem takes_openedNumber (n : Nat) :
    Takes openedNumber (escape (toString n).toList ++ ['"']) n := by
  have hnumber : Takes (StateT.lift (number? (toString n)) : Scanner Nat) [] n := by
    intro rest
    rw [number?, Text.Decimal.ofDigitChars_toString, if_pos rfl]
    rfl
  have hall : Takes openedNumber (_ ++ []) n := (takes_openedText (toString n)).bind hnumber
  rwa [List.append_nil] at hall

theorem takes_nodeRest (n : Node) :
    Takes (nodeRest n.entity) ((quoted n.label).toList ++ (fill n.highlighted ++ "];").toList)
      (.node n) := by
  have hfill : Takes (choose [(fill false ++ "];", pure false), (fill true ++ "];", pure true)])
      ((fill n.highlighted ++ "];").toList ++ []) n.highlighted := by
    refine Takes.choose (by decide) ?_ (takes_pure n.highlighted)
    cases n.highlighted <;> simp
  have hall : Takes (nodeRest n.entity) (_ ++ (_ ++ [])) (.node n) :=
    (takes_quotedText n.label).bind (hfill.bind (takes_pure (Line.node n)))
  rwa [List.append_nil, List.append_nil] at hall

theorem takes_edgeRest (e : Edge) :
    Takes (edgeRest e.source)
      ((quoted (toString e.target)).toList ++ (" [style=".toList ++ (e.style.name.toList ++
        (", color=".toList ++ ((quoted e.color).toList ++ "];".toList))))) (.edge e) := by
  have hstyle :
      Takes (choose [(EdgeStyle.solid.name, pure .solid), (EdgeStyle.dashed.name, pure .dashed)])
        (e.style.name.toList ++ []) e.style := by
    refine Takes.choose (by decide) ?_ (takes_pure e.style)
    cases e.style <;> simp
  have hall : Takes (edgeRest e.source)
      (_ ++ (_ ++ (_ ++ (_ ++ (_ ++ (_ ++ (_ ++ []))))))) (.edge e) :=
    (takes_text "\"").bind
      ((takes_openedNumber e.target).bind ((takes_text " [style=").bind (hstyle.bind
      ((takes_text ", color=").bind ((takes_quotedText e.color).bind ((takes_text "];").bind
        (takes_pure (Line.edge e))))))))
  rw [List.append_nil, List.append_nil] at hall
  rwa [toList_quoted, List.append_assoc]

theorem takes_textRest (make : String → Line) (close s : String) :
    Takes (textRest make close) ((quoted s).toList ++ close.toList) (make s) := by
  have hall : Takes (textRest make close) (_ ++ (_ ++ [])) (make s) :=
    (takes_quotedText s).bind ((takes_text close).bind (takes_pure (make s)))
  rwa [List.append_nil] at hall

theorem takes_dirRest (dir : RankDir) :
    Takes dirRest (dir.name.toList ++ ";".toList) (.rankDir dir) := by
  have hdir : Takes (choose (RankDir.all.map fun dir => (dir.name, pure dir)))
      (dir.name.toList ++ []) dir := by
    refine Takes.choose (by decide) (List.mem_map.mpr ⟨dir, ?_, rfl⟩) (takes_pure dir)
    cases dir <;> decide
  have hall : Takes dirRest (_ ++ (_ ++ [])) (.rankDir dir) :=
    hdir.bind ((takes_text ";").bind (takes_pure (Line.rankDir dir)))
  rwa [List.append_nil, List.append_nil] at hall

theorem takes_joinRest (id : Nat) {word : String} {next : Scanner Line} {s : List Char} {l : Line}
    (hword : (word, next) ∈ [(" [label=", nodeRest id), (" -> ", edgeRest id)])
    (hnext : Takes next s l) :
    Takes joinRest (escape (toString id).toList ++ ['"'] ++ (word.toList ++ s)) l := by
  have hapart : Apart [" [label=", " -> "] := by decide
  refine (takes_openedNumber id).bind (Takes.choose ?_ hword hnext)
  exact hapart

theorem takes_openings_of_mem (word : String) {next : Scanner Line} {s : List Char} {l : Line}
    (hword : (word, next) ∈ openings) (hnext : Takes next s l) :
    Takes (choose openings) (word.toList ++ s) l :=
  Takes.choose (by decide) hword hnext

/-- A line starts with one of the first words, and the scanner that comes after takes the rest
of it. -/
theorem takes_openings (l : Line) : Takes (choose openings) l.text.toList l := by
  cases l with
  | graph name =>
    have hall := takes_openings_of_mem "digraph " (by simp [openings])
      (takes_textRest .graph " \x7b" name)
    simpa [Line.text] using hall
  | compound =>
    have hall := takes_openings_of_mem "compound=true;" (by simp [openings])
      (takes_pure Line.compound)
    simpa [Line.text] using hall
  | rankDir dir =>
    have hall := takes_openings_of_mem "rankdir=" (by simp [openings]) (takes_dirRest dir)
    simpa [Line.text] using hall
  | cluster name =>
    have hall := takes_openings_of_mem "subgraph " (by simp [openings])
      (takes_textRest .cluster " \x7b" name)
    simpa [Line.text] using hall
  | label text =>
    have hall := takes_openings_of_mem "label=" (by simp [openings])
      (takes_textRest .label ";" text)
    simpa [Line.text] using hall
  | node n =>
    have hall := takes_openings_of_mem "\"" (by simp [openings])
      (takes_joinRest n.entity (.head _) (takes_nodeRest n))
    simpa [Line.text, nodeLine, toList_quoted] using hall
  | edge e =>
    have hall := takes_openings_of_mem "\"" (by simp [openings])
      (takes_joinRest e.source (.tail _ (.head _)) (takes_edgeRest e))
    simpa [Line.text, edgeLine, toList_quoted] using hall
  | close =>
    have hall := takes_openings_of_mem "\x7d" (by simp [openings]) (takes_pure Line.close)
    simpa [Line.text] using hall

theorem toList_indent (depth : Nat) (s : String) :
    (indent depth s).toList = List.replicate (4 * depth) ' ' ++ s.toList := by
  have hpad : (List.replicate depth "    ").flatMap String.toList =
      List.replicate (4 * depth) ' ' := by
    induction depth with
    | zero => rfl
    | succ n ih =>
      rw [List.replicate_succ, List.flatMap_cons, ih, Nat.mul_succ, Nat.add_comm,
        List.replicate_add]
      rfl
  rw [indent, String.toList_append, String.toList_join, hpad]

theorem Line.dropWhile_text (l : Line) : l.text.toList.dropWhile (· == ' ') = l.text.toList := by
  cases l <;> simp [Line.text, nodeLine, edgeLine, toList_quoted]

/-- A written line reads back, whatever its indentation. -/
theorem Line.read?_indent (depth : Nat) (l : Line) :
    Line.read? (indent depth l.text).toList = some l := by
  rw [Line.read?, toList_indent, List.dropWhile_append_of_pos (by simp), l.dropWhile_text]
  exact (takes_openings l).whole

/-! ## Line ends -/

theorem newline_notMem_quoted (s : String) : '\n' ∉ (quoted s).toList := by
  have hescaped (c : Char) : '\n' ∉ escapeChar c := by
    rw [escapeChar]
    split_ifs with hslash hquote hline
    · decide
    · decide
    · decide
    · simpa using Ne.symm hline
  simp [toList_quoted, escape_eq, hescaped]

/-- A text never leaves its line. -/
theorem Line.newline_notMem_text (l : Line) : '\n' ∉ l.text.toList := by
  cases l with
  | rankDir dir =>
    have hdir : '\n' ∉ dir.name.toList := by cases dir <;> decide
    simp [Line.text, hdir]
  | node n =>
    have hfill : '\n' ∉ (fill n.highlighted).toList := by cases n.highlighted <;> decide
    simp [Line.text, nodeLine, newline_notMem_quoted, hfill]
  | edge e =>
    have hstyle : '\n' ∉ e.style.name.toList := by cases e.style <;> decide
    simp [Line.text, edgeLine, newline_notMem_quoted, hstyle]
  | _ => simp [Line.text, newline_notMem_quoted]

end Dot

end CallAtlas
