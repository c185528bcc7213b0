import CallAtlas.Store.Archive
import CallAtlas.Proofs.ScannedTexts

/-!
# TOML texts that are read back

A written string is taken as the string, if what comes after it can come after an item
(`Settings.Toml.takesBefore_scalar`) : three quotes in a row would open a string of another form.
Nothing but an array starts with a bracket (`Settings.Toml.scalar_bracket`), so an array of items is
taken item by item, with blanks and line ends between them and with or without a comma after the
last one (`Settings.Toml.takes_array`). A line with a new key adds its value to the document
(`Settings.Toml.assignment_eq`).
-/

namespace CallAtlas

namespace Settings.Toml

open Text Scanner
open Text.Decimal (isDigit)

/-! ## Blanks -/

/-- Text that means nothing between items : blanks and line ends. -/
def IsFill (ws : List Char) : Prop :=
  ∀ c ∈ ws, c = ' ' ∨ c = '\n'

/-- Whether an item, a comma or a bracket can start with a character. -/
def isSolid (c : Char) : Bool :=
  !isGap c && c != '\n' && c != '\r' && c != '#'

/-- A text that starts with a meaning. -/
def StartsSolid (cs : List Char) : Prop :=
  ∃ c rest, cs = c :: rest ∧ isSolid c = true

theorem StartsSolid.append {cs : List Char} (h : StartsSolid cs) (ds : List Char) :
    StartsSolid (cs ++ ds) := by
  obtain ⟨c, rest, rfl, hc⟩ := h
  exact ⟨c, rest ++ ds, rfl, hc⟩

theorem startsSolid_cons {c : Char} (h : isSolid c = true) (cs : List Char) :
    StartsSolid (c :: cs) :=
  ⟨c, cs, rfl, h⟩

theorem gap_of_startsSolid {cs : List Char} (h : StartsSolid cs) : gap cs = some ((), cs) := by
  obtain ⟨c, rest, rfl, hc⟩ := h
  have hgap : isGap c = false := by simp_all [isSolid]
  simp [gap, hgap]

theorem gap_blank {cs : List Char} (h : StartsSolid cs) : gap (' ' :: cs) = some ((), cs) := by
  obtain ⟨c, rest, rfl, hc⟩ := h
  have hgap : isGap c = false := by simp_all [isSolid]
  simp [gap, hgap, show isGap ' ' = true from rfl]

theorem newline_cons (c : Char) (cs : List Char) (h : c ≠ '\r') :
    newline (c :: cs) = if c = '\n' then some ((), cs) else none := by
  have hreturn : ('\r' == c) = false := beq_eq_false_iff_ne.mpr h.symm
  rw [newline, orElse_apply, char_cons, text_apply]
  simp [List.isPrefixOf, hreturn]

theorem filler_eq {ws cs : List Char} (hws : IsFill ws) (hcs : StartsSolid cs) :
    filler (ws ++ cs) = some ((), cs) := by
  obtain ⟨c, rest, rfl, hc⟩ := hcs
  have hruns : Runs (fun _ => True)
      (newline <|> (do let _ ← satisfy isGap) <|> (do comment; newline))
      (ws.map fun c => ([c], ())) (c :: rest) := by
    refine ⟨fun x hx rest _ => ?_, by simp, fun _ _ _ => trivial, trivial, ?_⟩
    · obtain ⟨c, hc, rfl⟩ := List.mem_map.mp hx
      rcases hws c hc with rfl | rfl
      · simp [newline_cons, isGap]
      · simp [newline_cons]
    · simp only [isSolid, Bool.and_eq_true, Bool.not_eq_true', bne_iff_ne] at hc
      obtain ⟨⟨⟨hgap, hline⟩, hreturn⟩, hcomment⟩ := hc
      simp [newline_cons, hgap, hline, hreturn, hcomment, comment]
  have hmany := many_eq hruns
  rw [List.flatMap_map] at hmany
  simp only [List.flatMap_singleton'] at hmany
  rw [filler, bind_apply, hmany]
  rfl

/-! ## Strings -/

theorem takes_codePoint {count : Nat} {ds : List Char} {c : Char} (hlength : ds.length = count)
    (hdigits : ds.all isHexDigit = true) (hvalue : ofDigits 16 ds = c.toNat) :
    Takes (codePoint count) ds c := by
  intro rest
  have htake : (ds ++ rest).take count = ds := by simp [← hlength]
  have hdrop : (ds ++ rest).drop count = rest := by simp [← hlength]
  have hvalid : (ofDigits 16 ds).isValidChar := hvalue ▸ c.valid
  have hchar : Char.ofNatAux (ofDigits 16 ds) hvalid = c := by
    have hself := Char.ofNat_toNat c
    rwa [← hvalue, Char.ofNat, dif_pos hvalid] at hself
  change (require (((ds ++ rest).take count).length == count &&
    ((ds ++ rest).take count).all isHexDigit) (ds ++ rest)).bind (fun _ =>
      (if h : (ofDigits 16 ((ds ++ rest).take count)).isValidChar then
        (pure (Char.ofNatAux _ h) : Scanner Char) else failure) ((ds ++ rest).drop count)) = _
  rw [htake, hdrop, require_apply, hlength, hdigits, dif_pos hvalid, hchar]
  simp

/-- Control characters are written with four digits. -/
theorem escape_digits :
    (∀ n < 16, ("000" ++ hex n).length = 4 ∧ ("000" ++ hex n).toList.all isHexDigit = true ∧
      ofDigits 16 ("000" ++ hex n).toList = n) ∧
    ∀ n < 128, 16 ≤ n → ("00" ++ hex n).length = 4 ∧ ("00" ++ hex n).toList.all isHexDigit = true ∧
      ofDigits 16 ("00" ++ hex n).toList = n := by
  decide +kernel

theorem takes_escaped {ds : List Char} {c : Char} (h : Takes (codePoint 4) ds c) :
    Takes basicChar ('\\' :: 'u' :: ds) c := by
  intro rest
  simp only [List.cons_append, basicChar, orElse_apply, bind_apply, satisfy_cons, char_cons, escape]
  simpa using h rest

theorem takes_basicChar (c : Char) : Takes basicChar (Archive.escapeChar c).toList c := by
  unfold Archive.escapeChar
  split_ifs with hquote hslash hlow hcontrol
  · subst hquote
    intro rest
    simp [basicChar, escape]
  · subst hslash
    intro rest
    simp [basicChar, escape]
  · obtain ⟨hlength, hdigits, hvalue⟩ := escape_digits.1 c.toNat hlow
    have htext : ("\\u000" ++ hex c.toNat).toList =
        '\\' :: 'u' :: ("000" ++ hex c.toNat).toList := by simp
    rw [htext]
    exact takes_escaped (takes_codePoint (by rwa [String.length_toList]) hdigits hvalue)
  · have hrange : c.toNat < 128 := by
      rcases Bool.or_eq_true_iff.mp hcontrol with h | h
      · have := of_decide_eq_true h
        omega
      · rw [of_decide_eq_true h]
        decide
    obtain ⟨hlength, hdigits, hvalue⟩ := escape_digits.2 c.toNat hrange (by omega)
    have htext : ("\\u00" ++ hex c.toNat).toList =
        '\\' :: 'u' :: ("00" ++ hex c.toNat).toList := by simp
    rw [htext]
    exact takes_escaped (takes_codePoint (by rwa [String.length_toList]) hdigits hvalue)
  · intro rest
    have htext : isTextChar c = true := by
      simp only [Bool.or_eq_true, decide_eq_true_eq, not_or, Nat.not_lt] at hcontrol
      have hblank : ' ' ≤ c := Char.le_def.mpr (UInt32.le_iff_toNat_le.mpr hcontrol.1)
      simp [isTextChar, hblank, hcontrol.2]
    simp [basicChar, hquote, hslash, htext]

/-- What stands between the quotes of a string. -/
def escaped (s : String) : List Char :=
  s.toList.flatMap fun c => (Archive.escapeChar c).toList

theorem toList_quoted (s : String) : (Archive.quoted s).toList = '"' :: escaped s ++ ['"'] := by
  simp [Archive.quoted, escaped, String.toList_join, List.flatMap_map]

theorem takes_basicString (s : String) : Takes basicString (Archive.quoted s).toList s := by
  intro rest
  have hruns : Runs (fun _ => True) basicChar
      (s.toList.map fun c => ((Archive.escapeChar c).toList, c)) ('"' :: rest) := by
    refine ⟨fun x hx more _ => ?_, fun x hx hnil => ?_, fun _ _ _ => trivial, trivial, ?_⟩
    · obtain ⟨c, -, rfl⟩ := List.mem_map.mp hx
      exact takes_basicChar c more
    · obtain ⟨c, -, rfl⟩ := List.mem_map.mp hx
      have hnone := takes_basicChar c []
      rw [show (Archive.escapeChar c).toList = [] from hnil] at hnone
      cases hnone
    · simp [basicChar]
  have hmany := many_eq hruns
  simp only [List.flatMap_map, List.map_map, Function.comp_def, List.map_id'] at hmany
  simp [basicString, toList_quoted, escaped, hmany]

theorem head?_escaped (s : String) : (escaped s).head? ≠ some '"' := by
  rw [escaped]
  cases s.toList with
  | nil => simp
  | cons c cs =>
    rw [List.flatMap_cons, Archive.escapeChar]
    split_ifs <;> simp_all

/-- Text that can come after an item. -/
def EndsItem (cs : List Char) : Prop :=
  ∃ rest, cs = ',' :: rest ∨ cs = ']' :: rest

theorem takesBefore_scalar (s : String) :
    TakesBefore EndsItem scalar (Archive.quoted s).toList (.text s) := by
  intro rest hrest
  have hlong : longBasicString ((Archive.quoted s).toList ++ rest) = none := by
    have hopen : "\"\"\"".toList.isPrefixOf ((Archive.quoted s).toList ++ rest) = false := by
      have hhead := head?_escaped s
      rw [toList_quoted]
      cases hs : escaped s with
      | nil => rcases hrest with ⟨rest, rfl | rfl⟩ <;> rfl
      | cons c cs =>
        have hc : ('"' == c) = false :=
          beq_eq_false_iff_ne.mpr fun h => hhead (by rw [hs, ← h]; rfl)
        simp [List.isPrefixOf, hc]
    rw [longBasicString, bind_apply, text_apply, hopen]
    rfl
  have hliteral : longLiteralString ((Archive.quoted s).toList ++ rest) = none := by
    rw [toList_quoted, longLiteralString, bind_apply, text_apply]
    rfl
  have hstring : string ((Archive.quoted s).toList ++ rest) = some (s, rest) := by
    rw [string, orElse_apply, orElse_apply, orElse_apply, hlong, hliteral, takes_basicString]
    rfl
  rw [scalar, orElse_apply, map_apply, hstring]
  rfl

/-! ## Arrays -/

theorem text_of_head {w : String} {c : Char} {cs : List Char}
    (h : w.toList.head? ≠ none ∧ w.toList.head? ≠ some c) : text w (c :: cs) = none := by
  rw [text_apply, if_neg]
  cases hw : w.toList with
  | nil => simp [hw] at h
  | cons d ds =>
    have hd : (d == c) = false := beq_eq_false_iff_ne.mpr fun hdc => h.2 (by rw [hw, hdc]; rfl)
    simp [List.isPrefixOf, hd]

theorem fixedDigits_cons {count : Nat} {c : Char} (h : isDigit c = false) (cs : List Char) :
    fixedDigits (count + 1) (c :: cs) = none := by
  change (require (((c :: cs).take (count + 1)).length == count + 1 &&
    ((c :: cs).take (count + 1)).all isDigit) (c :: cs)).bind _ = none
  simp [h]

/-- No scalar starts with a bracket. -/
theorem scalar_bracket {c : Char} (h : c = '[' ∨ c = ']') (cs : List Char) :
    scalar (c :: cs) = none := by
  have hdigit : isDigit c = false := by rcases h with rfl | rfl <;> decide
  have hquotes : c ≠ '"' ∧ c ≠ '\'' ∧ c ≠ '-' ∧ c ≠ '+' ∧ c ≠ '0' := by
    rcases h with rfl | rfl <;> decide
  have hwords : ∀ w ∈ ["\"\"\"", "'''", "true", "false", "0x", "0o", "0b", "inf", "nan"],
      text w (c :: cs) = none := by
    intro w hw
    refine text_of_head ?_
    rcases h with rfl | rfl <;> revert w <;> decide
  have hstring : string (c :: cs) = none := by
    simp [string, longBasicString, longLiteralString, basicString, literalString, hwords, hquotes]
  have hboolean : boolean (c :: cs) = none := by
    simp [boolean, hwords]
  have hday : day (c :: cs) = none := by
    rw [day, bind_apply, fixedDigits_cons hdigit, Option.bind_none]
  have htime : timeOfDay (c :: cs) = none := by
    rw [timeOfDay, bind_apply, twoDigits, bind_apply, fixedDigits_cons hdigit, Option.bind_none,
      Option.bind_none]
  have hdate : dateTime (c :: cs) = none := by
    rw [dateTime, bind_apply, orElse_apply, bind_apply, hday, htime]
    rfl
  have hsign : sign (c :: cs) = some (false, c :: cs) := by
    simp [sign, hquotes]
  have hdigits : decimalDigits (c :: cs) = none := by
    have hpeek : peek (c :: cs) = some (some c, c :: cs) := rfl
    simp [decimalDigits, hpeek, hquotes, digitsWith, hdigit]
  have hbased : basedInteger (c :: cs) = none := by
    simp [basedInteger, reads_apply, hwords]
  have hfloat : digitFloat (c :: cs) = none := by
    rw [digitFloat, bind_apply, hsign, Option.bind_some, bind_apply, hdigits, Option.bind_none]
  have hword : wordFloat (c :: cs) = none := by
    simp [wordFloat, hsign, hwords]
  have hinteger : decimalInteger (c :: cs) = none := by
    rw [decimalInteger, bind_apply, hsign, Option.bind_some, bind_apply, hdigits, Option.bind_none]
  simp only [scalar, orElse_apply, map_apply, hstring, hboolean, hdate, hfloat, hword, hbased,
    hinteger, Option.map_none, Option.or_none]

/-- The scanner of an item : a value with blanks and line ends around it. -/
def item (value : Scanner Value) : Scanner Value := do
  filler
  let v ← value
  filler
  return v

/-- A text with a meaning that is taken as a value. -/
structure IsItem (value : Scanner Value) (x : List Char × Value) : Prop where
  starts : StartsSolid x.1
  takes : TakesBefore EndsItem value x.1 x.2

theorem EndsItem.startsSolid {cs : List Char} (h : EndsItem cs) : StartsSolid cs := by
  rcases h with ⟨rest, rfl | rfl⟩
  · exact startsSolid_cons (by decide) rest
  · exact startsSolid_cons (by decide) rest

theorem isFill_nil : IsFill [] :=
  fun _ h => nomatch h

theorem IsItem.takes_item {value : Scanner Value} {x : List Char × Value} (h : IsItem value x)
    {ws : List Char} (hws : IsFill ws) : TakesBefore EndsItem (item value) (ws ++ x.1) x.2 := by
  intro rest hrest
  have hbefore := filler_eq hws (h.starts.append rest)
  have hafter := filler_eq isFill_nil hrest.startsSolid
  rw [List.nil_append] at hafter
  rw [List.append_assoc, item, bind_apply, hbefore, Option.bind_some, bind_apply,
    h.takes rest hrest, Option.bind_some, bind_apply, hafter]
  rfl

/-- What comes after the last item of an array : nothing, or a comma with blanks. -/
def IsTail (tail : List Char) : Prop :=
  tail = [] ∨ ∃ ws, tail = ',' :: ws ∧ IsFill ws

theorem IsTail.endsItem {tail : List Char} (h : IsTail tail) (rest : List Char) :
    EndsItem (tail ++ ']' :: rest) := by
  rcases h with rfl | ⟨ws, rfl, -⟩
  · exact ⟨rest, .inr rfl⟩
  · exact ⟨ws ++ ']' :: rest, .inl rfl⟩

theorem item_close {value : Scanner Value} (hclose : ∀ cs, value (']' :: cs) = none)
    {ws : List Char} (hws : IsFill ws) (rest : List Char) :
    item value (ws ++ ']' :: rest) = none := by
  rw [item, bind_apply, filler_eq hws (startsSolid_cons (by decide) rest), Option.bind_some,
    bind_apply, hclose]
  rfl

/-- The items after the first one, each with a comma in front. -/
theorem runs_items {value : Scanner Value} (hclose : ∀ cs, value (']' :: cs) = none)
    {between tail : List Char} (hbetween : IsFill between) (htail : IsTail tail)
    {items : List (List Char × Value)} (hitems : ∀ x ∈ items, IsItem value x) (rest : List Char) :
    Runs EndsItem (do let _ ← char ','; item value)
      (items.map fun x => (',' :: (between ++ x.1), x.2)) (tail ++ ']' :: rest) where
  takes x hx more hmore := by
    obtain ⟨y, hy, rfl⟩ := List.mem_map.mp hx
    have hitem := (hitems y hy).takes_item hbetween more hmore
    simpa using hitem
  fills x hx := by
    obtain ⟨y, -, rfl⟩ := List.mem_map.mp hx
    simp
  follows x hx more := by
    obtain ⟨y, -, rfl⟩ := List.mem_map.mp hx
    exact ⟨_, .inl rfl⟩
  stays := htail.endsItem rest
  ends := by
    rcases htail with rfl | ⟨ws, rfl, hws⟩
    · simp
    · simpa using item_close hclose hws rest

theorem separated1_items {value : Scanner Value} (hclose : ∀ cs, value (']' :: cs) = none)
    {between tail : List Char} (hbetween : IsFill between) (htail : IsTail tail)
    {first : List Char × Value} {more : List (List Char × Value)}
    (hitems : ∀ x ∈ first :: more, IsItem value x) (rest : List Char) :
    separated1 (char ',') (item value)
        (first.1 ++ (more.flatMap (fun x => ',' :: (between ++ x.1)) ++ (tail ++ ']' :: rest))) =
      some (first.2 :: more.map (·.2), tail ++ ']' :: rest) := by
  obtain ⟨hfirst, hmore⟩ := List.forall_mem_cons.mp hitems
  have hrun := many_eq (runs_items hclose hbetween htail hmore rest)
  rw [List.flatMap_map, List.map_map] at hrun
  have hends : EndsItem
      (more.flatMap (fun x => ',' :: (between ++ x.1)) ++ (tail ++ ']' :: rest)) := by
    cases more with
    | nil => exact htail.endsItem rest
    | cons x more => exact ⟨_, .inl rfl⟩
  have hitem := hfirst.takes_item isFill_nil _ hends
  rw [List.nil_append] at hitem
  rw [separated1, bind_apply, hitem, Option.bind_some, bind_apply, hrun]
  rfl

/-- The text of an array : its items with commas between them, and one after the last if `tail` has
it. -/
theorem takes_array {value : Scanner Value} (hclose : ∀ cs, value (']' :: cs) = none)
    {lead between tail : List Char} (hlead : IsFill lead) (hbetween : IsFill between)
    (htail : IsTail tail) (first : List Char × Value) (more : List (List Char × Value))
    (hitems : ∀ x ∈ first :: more, IsItem value x) :
    Takes (array value)
      ('[' :: (lead ++ first.1 ++ more.flatMap (fun x => ',' :: (between ++ x.1)) ++ tail ++ [']']))
      (.list (first.2 :: more.map (·.2))) := by
  intro rest
  have hitems' := separated1_items hclose hbetween htail hitems rest
  have hfiller := filler_eq hlead ((hitems first (by simp)).starts.append
    (more.flatMap (fun x => ',' :: (between ++ x.1)) ++ (tail ++ ']' :: rest)))
  have hend : ∀ ws, IsFill ws → filler (ws ++ ']' :: rest) = some ((), ']' :: rest) :=
    fun ws hws => filler_eq hws (startsSolid_cons (by decide) rest)
  have htext : '[' :: (lead ++ first.1 ++ more.flatMap (fun x => ',' :: (between ++ x.1)) ++ tail ++
      [']']) ++ rest = '[' :: (lead ++ (first.1 ++
        (more.flatMap (fun x => ',' :: (between ++ x.1)) ++ (tail ++ ']' :: rest)))) := by simp
  unfold item at hitems'
  rw [htext, array]
  simp only [bind_apply, char_cons, if_true, Option.bind_some, hfiller, optional_apply, hitems',
    Option.map_some, Option.some_or, Option.isSome_some]
  rcases htail with rfl | ⟨ws, rfl, hws⟩
  · have hblank := hend [] isFill_nil
    simp only [List.nil_append] at hblank ⊢
    simp [hblank]
  · simp [hend ws hws]

theorem takes_array_nil {value : Scanner Value} (hclose : ∀ cs, value (']' :: cs) = none)
    {lead : List Char} (hlead : IsFill lead) :
    Takes (array value) ('[' :: (lead ++ [']'])) (.list []) := by
  intro rest
  have hfiller := filler_eq hlead (startsSolid_cons (c := ']') (by decide) rest)
  have hblank := filler_eq isFill_nil (startsSolid_cons (c := ']') (by decide) rest)
  rw [List.nil_append] at hblank
  have htext : '[' :: (lead ++ [']']) ++ rest = '[' :: (lead ++ ']' :: rest) := by simp
  rw [htext, array]
  simp [hfiller, hblank, separated1, hclose]

theorem value_close (depth : Nat) (cs : List Char) : value depth (']' :: cs) = none := by
  match depth with
  | 0 => rfl
  | 1 => exact scalar_bracket (.inr rfl) cs
  | depth + 2 =>
    have hscalar := scalar_bracket (.inr rfl) cs
    simp [value, hscalar, array, inlineTable]

theorem isItem_text (depth : Nat) (s : String) :
    IsItem (value (depth + 1)) ((Archive.quoted s).toList, .text s) where
  starts := by
    rw [toList_quoted]
    exact startsSolid_cons (by decide) _
  takes rest hrest := by
    have hscalar := takesBefore_scalar s rest hrest
    cases depth with
    | zero => exact hscalar
    | succ depth =>
      rw [value, orElse_apply, hscalar]
      rfl

theorem takes_value_of_array {depth : Nat} {cs : List Char} {v : Value}
    (h : Takes (array (value (depth + 1))) ('[' :: cs) v) :
    Takes (value (depth + 2)) ('[' :: cs) v := by
  intro rest
  have hscalar := scalar_bracket (.inl rfl) (cs ++ rest)
  have harray := h rest
  rw [List.cons_append] at harray ⊢
  rw [value, orElse_apply, orElse_apply, hscalar, harray]
  rfl

theorem isItem_array {depth : Nat} {cs : List Char} {v : Value}
    (h : Takes (array (value (depth + 1))) ('[' :: cs) v) :
    IsItem (value (depth + 2)) ('[' :: cs, v) where
  starts := startsSolid_cons (by decide) cs
  takes rest _ := takes_value_of_array h rest

/-! ## Assignments -/

/-- A name that can be a key without quotes. -/
def IsKey (name : String) : Prop :=
  name.toList ≠ [] ∧ name.toList.all isKeyChar = true
  deriving Decidable

/-- Characters that no bare key has. -/
def otherChars : List Char :=
  [' ', '\t', '\n', '\r', '#', '"', '\'', '[', '\ufeff']

theorem notMem_of_isKeyChar {c : Char} (h : isKeyChar c = true) : c ∉ otherChars := by
  intro hc
  have hall : otherChars.all (!isKeyChar ·) = true := by decide
  have hno := List.all_eq_true.mp hall c hc
  simp [h] at hno

theorem keyPart_eq {name : String} (h : IsKey name) (cs : List Char) :
    keyPart (name.toList ++ ' ' :: '=' :: cs) = some (name, '=' :: cs) := by
  obtain ⟨hne, hkey⟩ := h
  rw [List.all_eq_true] at hkey
  obtain ⟨c, rest, hname⟩ := List.exists_cons_of_ne_nil hne
  have hc := notMem_of_isKeyChar (hkey c (by simp [hname]))
  simp only [otherChars, List.mem_cons, List.not_mem_nil, not_or, or_false] at hc
  have hsolid : isSolid c = true := by simp [isSolid, isGap, hc]
  have hgap : gap (name.toList ++ ' ' :: '=' :: cs) =
      some ((), name.toList ++ ' ' :: '=' :: cs) := by
    rw [hname]
    exact gap_of_startsSolid (startsSolid_cons hsolid _)
  have hbasic : basicString (name.toList ++ ' ' :: '=' :: cs) = none := by
    simp [hname, basicString, hc]
  have hliteral : literalString (name.toList ++ ' ' :: '=' :: cs) = none := by
    simp [hname, literalString, hc]
  have hbare : takeWhile1 isKeyChar (name.toList ++ ' ' :: '=' :: cs) =
      some (name.toList, ' ' :: '=' :: cs) := by
    have hblank : isKeyChar ' ' = false := by decide
    rw [takeWhile1, bind_apply, takeWhile_apply, List.takeWhile_append_of_pos hkey,
      List.dropWhile_append_of_pos hkey]
    simp [hblank, hne]
  have hafter : gap (' ' :: '=' :: cs) = some ((), '=' :: cs) :=
    gap_blank (startsSolid_cons (by decide) cs)
  simp [keyPart, hgap, hbasic, hliteral, hbare, hafter]

theorem key_eq {name : String} (h : IsKey name) (cs : List Char) :
    key (name.toList ++ ' ' :: '=' :: cs) = some (([], name), '=' :: cs) := by
  have hmore : many (do let _ ← char '.'; keyPart) ('=' :: cs) = some ([], '=' :: cs) :=
    many_of_none (by simp)
  have hparts : separated1 (char '.') keyPart (name.toList ++ ' ' :: '=' :: cs) =
      some ([name], '=' :: cs) := by
    simp [separated1, keyPart_eq h, hmore]
  simp [key, hparts, nestingLimit]

theorem lineEnd_newline (rest : List Char) : lineEnd ('\n' :: rest) = some ((), rest) := by
  have hgap : gap ('\n' :: rest) = some ((), '\n' :: rest) := rfl
  have hatEnd : atEnd ('\n' :: rest) = some (false, '\n' :: rest) := rfl
  simp [lineEnd, hgap, comment, hatEnd, newline_cons]

theorem setField_of_new {name : String} {e : Entry} {fields : Fields}
    (h : fields.lookup name = none) : setField name e fields = fields ++ [(name, e)] := by
  induction fields with
  | nil => rfl
  | cons f fields ih =>
    by_cases hf : f.1 = name
    · simp [hf] at h
    · have hname : (name == f.1) = false := beq_eq_false_iff_ne.mpr (Ne.symm hf)
      rw [List.lookup_cons, hname] at h
      rw [setField, if_neg hf, ih h, List.cons_append]

theorem setIn_of_new {name : String} {v : Value} {fields : Fields}
    (h : fields.lookup name = none) :
    setIn [] [] name v fields = some (fields ++ [(name, .value v)]) := by
  simp [setIn, update, setValue, insertNew, h, setField_of_new]

/-- A line with a key and an array. -/
theorem assignment_eq {name : String} (hname : IsKey name) {cs : List Char} {v : Value}
    (hv : Takes (value nestingLimit) ('[' :: cs) v) {fields : Fields}
    (hnew : fields.lookup name = none) :
    Takes (assignment ⟨fields, []⟩) (name.toList ++ ' ' :: '=' :: ' ' :: '[' :: cs ++ ['\n'])
      ⟨fields ++ [(name, .value v)], []⟩ := by
  intro rest
  have hkey := key_eq hname (' ' :: '[' :: cs ++ ['\n'] ++ rest)
  have hgap : gap (' ' :: '[' :: (cs ++ '\n' :: rest)) = some ((), '[' :: (cs ++ '\n' :: rest)) :=
    gap_blank (startsSolid_cons (by decide) _)
  have hvalue := hv ('\n' :: rest)
  have hafter : gap ('\n' :: rest) = some ((), '\n' :: rest) := rfl
  simp only [List.cons_append, List.append_assoc, List.nil_append] at hkey hvalue ⊢
  simp [assignment, keyValue, hkey, hgap, hvalue, hafter, lineEnd_newline, advance,
    setIn_of_new hnew]

theorem lines_key {c : Char} (hc : isKeyChar c = true) (n : Nat) (d : Draft) (cs : List Char) :
    lines (n + 1) d (c :: cs) = (assignment d (c :: cs)).bind fun x => lines n x.1 x.2 := by
  have hc := notMem_of_isKeyChar hc
  simp only [otherChars, List.mem_cons, List.not_mem_nil, not_or, or_false] at hc
  have hsolid : isSolid c = true := by simp [isSolid, isGap, hc]
  have hgap := gap_of_startsSolid (startsSolid_cons hsolid cs)
  have hpeek : peek (c :: cs) = some (some c, c :: cs) := rfl
  rw [lines, bind_apply, hgap, Option.bind_some, bind_apply, hpeek, Option.bind_some]
  simp [hc]

end Settings.Toml

end CallAtlas
