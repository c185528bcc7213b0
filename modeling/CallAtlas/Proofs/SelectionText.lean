import Mathlib.Data.List.DropRight
import Mathlib.Data.List.Forall2
import CallAtlas.Graph.Selection

/-!
# Selections are read exactly

The words of a text are its parts between commas, without the white space around them
(`Selection.HasWords`). A word is an id if it is a numeral : digits, with a plus sign or none before
them, whose value fits into 64 bits (`Text.Decimal.IsNumeral`). The reader adds digit after digit
and stops as soon as the number is too large; since more digits never make it smaller, it accepts
just the numerals (`Text.Decimal.word?_eq_some_iff`). A text gives the set of its numerals if every
word is one, and otherwise its first word that is none is the error (`Selection.readsAs_wordsOf`).
So ids that are written out in any order are read back.
-/

namespace CallAtlas

namespace Text

/-! ## Parts -/

/-- The parts of a text : none has a separator, and they are the text when separators are put
between them. -/
structure IsCut (sep : Char) (cs : List Char) (parts : List (List Char)) : Prop where
  nonempty : parts ≠ []
  plain : ∀ part ∈ parts, sep ∉ part
  joined : [sep].intercalate parts = cs

variable {sep : Char} {cs : List Char}

theorem splitOn_eq (sep : Char) (cs : List Char) : splitOn sep cs = cs.splitOn sep := by
  induction cs with
  | nil => rfl
  | cons c cs ih =>
    rw [splitOn, List.splitOn_cons_eq_if_modifyHead, ← ih]
    by_cases hc : c = sep
    · simp [hc]
    · cases hparts : splitOn sep cs with
      | nil => exact absurd hparts (splitOn_ne_nil sep cs)
      | cons part parts => simp [hc]

theorem notMem_of_mem_splitOn {part : List Char} (h : part ∈ splitOn sep cs) : sep ∉ part := by
  induction cs generalizing part with
  | nil =>
    obtain rfl : part = [] := by simpa [splitOn] using h
    exact List.not_mem_nil
  | cons c cs ih =>
    rw [splitOn] at h
    split at h
    · rcases List.mem_cons.mp h with rfl | h
      · exact List.not_mem_nil
      · exact ih h
    · rename_i hc
      cases hparts : splitOn sep cs with
      | nil => exact absurd hparts (splitOn_ne_nil sep cs)
      | cons first parts =>
        rw [hparts] at h ih
        rcases List.mem_cons.mp h with rfl | h
        · rw [List.mem_cons, not_or]
          exact ⟨Ne.symm hc, ih List.mem_cons_self⟩
        · exact ih (List.mem_cons_of_mem _ h)

/-- A text has one list of parts. -/
theorem isCut_iff {parts : List (List Char)} : IsCut sep cs parts ↔ splitOn sep cs = parts := by
  constructor
  · rintro ⟨hne, hplain, rfl⟩
    rw [splitOn_eq, List.splitOn_intercalate sep hplain hne]
  · rintro rfl
    exact ⟨splitOn_ne_nil sep cs, fun part => notMem_of_mem_splitOn,
      by rw [splitOn_eq, List.intercalate_splitOn]⟩

/-! ## White space -/

/-- What a text is without the white space around it. -/
structure IsTrim (cs core : List Char) : Prop where
  around : ∃ before after, (∀ c ∈ before, isBlank c = true) ∧ (∀ c ∈ after, isBlank c = true) ∧
    cs = before ++ core ++ after
  first : ∀ c ∈ core.head?, isBlank c = false
  last : ∀ c ∈ core.getLast?, isBlank c = false

theorem trimList_eq_rdropWhile (cs : List Char) :
    trimList cs = (cs.dropWhile isBlank).rdropWhile isBlank :=
  rfl

theorem trimList_eq_nil_iff : trimList cs = [] ↔ ∀ c ∈ cs, isBlank c = true := by
  rw [trimList_eq_rdropWhile, List.rdropWhile_eq_nil_iff]
  constructor
  · intro h c hc
    rw [← List.takeWhile_append_dropWhile (p := isBlank) (l := cs), List.mem_append] at hc
    exact hc.elim List.mem_takeWhile_imp (h c)
  · exact fun h c hc => h c ((List.dropWhile_suffix isBlank).mem hc)

theorem isTrim_trimList (cs : List Char) : IsTrim cs (trimList cs) where
  around := by
    refine ⟨cs.takeWhile isBlank, (cs.dropWhile isBlank).rtakeWhile isBlank,
      fun c hc => List.mem_takeWhile_imp hc, fun c hc => List.mem_rtakeWhile_imp hc, ?_⟩
    rw [trimList_eq_rdropWhile, List.append_assoc, List.rdropWhile_append_rtakeWhile,
      List.takeWhile_append_dropWhile]
  first c hc := by
    -- the first character is also the first one after the white space at the start
    have hprefix : trimList cs <+: cs.dropWhile isBlank := List.rdropWhile_prefix isBlank _
    have hfirst : (cs.dropWhile isBlank).head? = some c := by
      obtain ⟨rest, hrest⟩ := hprefix
      rw [← hrest, List.head?_append, hc, Option.some_or]
    have := List.head?_dropWhile_not isBlank cs
    rw [hfirst] at this
    simpa using this
  last c hc := by
    have hne : trimList cs ≠ [] := fun hnil => by simp [hnil] at hc
    have hlast : ¬ isBlank ((trimList cs).getLast hne) = true :=
      List.rdropWhile_last_not isBlank (cs.dropWhile isBlank) hne
    rw [Option.mem_def, List.getLast?_eq_some_getLast hne] at hc
    obtain rfl := Option.some.inj hc
    exact Bool.eq_false_iff.mpr hlast

/-- A text without white space around it is all that is left when white space is put around. -/
theorem IsTrim.trimList_eq {core : List Char} (h : IsTrim cs core) : trimList cs = core := by
  obtain ⟨⟨before, after, hbefore, hafter, rfl⟩, hfirst, hlast⟩ := h
  have hdrop : (before ++ core ++ after).dropWhile isBlank = (core ++ after).dropWhile isBlank := by
    rw [List.append_assoc, List.dropWhile_append_of_pos hbefore]
  rcases List.eq_nil_or_concat' core with rfl | ⟨front, d, rfl⟩
  · rw [trimList_eq_nil_iff]
    simpa using fun c hc => hc.elim (hbefore c) (hafter c)
  · have hd : isBlank d = false := hlast d (by simp)
    have hstart : ((front ++ [d]) ++ after).dropWhile isBlank = (front ++ [d]) ++ after := by
      cases front with
      | nil => simp [hd]
      | cons c front => simp [hfirst c (by simp)]
    have hend : after.reverse.dropWhile isBlank = [] := by simpa using hafter
    rw [trimList, hdrop, hstart, List.reverse_append, List.dropWhile_append, hend]
    simp [hd]

/-- A text has one trim. -/
theorem isTrim_iff {core : List Char} : IsTrim cs core ↔ trimList cs = core :=
  ⟨IsTrim.trimList_eq, fun h => h ▸ isTrim_trimList cs⟩

/-! ## Numerals -/

namespace Decimal

/-- Digits after a plus sign or none, with their value, which fits into 64 bits. -/
def IsNumeral (cs : List Char) (n : Nat) : Prop :=
  ∃ sign ds, cs = sign ++ ds ∧ (sign = [] ∨ sign = ['+']) ∧ ds ≠ [] ∧ (∀ d ∈ ds, d.isDigit = true) ∧
    Nat.ofDigitChars 10 ds 0 = n ∧ n < UInt64.size

theorem wordLimit_eq : wordLimit = UInt64.size :=
  rfl

theorem isDigit_eq (c : Char) : isDigit c = c.isDigit :=
  rfl

/-- More digits never make a number smaller. -/
theorem le_ofDigitChars (ds : List Char) (n : Nat) : n ≤ Nat.ofDigitChars 10 ds n := by
  induction ds generalizing n with
  | nil => exact le_rfl
  | cons d ds ih =>
    rw [Nat.ofDigitChars_cons]
    have := ih (10 * n + (d.toNat - '0'.toNat))
    omega

/-- Reading digits gives their value, if that is small enough in the end. -/
theorem digits_eq_ok_iff {n m : Nat} (hn : n < wordLimit) {ds : List Char} :
    digits n ds = .ok m ↔
      (∀ d ∈ ds, d.isDigit = true) ∧ Nat.ofDigitChars 10 ds n = m ∧ m < wordLimit := by
  induction ds generalizing n with
  | nil =>
    rw [digits, Nat.ofDigitChars_nil, Except.ok.injEq]
    constructor
    · rintro rfl
      exact ⟨by simp, rfl, hn⟩
    · exact fun h => h.2.1
  | cons d ds ih =>
    have hvalue : Nat.ofDigitChars 10 (d :: ds) n = Nat.ofDigitChars 10 ds (10 * n + digit d) :=
      Nat.ofDigitChars_cons
    rw [digits, isDigit_eq, List.forall_mem_cons, hvalue]
    cases hd : d.isDigit with
    | false => simp
    | true =>
      by_cases hsmall : 10 * n + digit d < wordLimit
      · simp [hsmall, ih hsmall]
      · -- the value is too large already, and can only grow
        have hgrow := le_ofDigitChars ds (10 * n + digit d)
        have hlarge : ¬ (Nat.ofDigitChars 10 ds (10 * n + digit d) = m ∧ m < wordLimit) := by omega
        simp [hsmall, hlarge]

/-- The reader accepts the numerals. -/
theorem word?_eq_some_iff {cs : List Char} {n : Nat} : word? cs = some n ↔ IsNumeral cs n := by
  have hdigits : ∀ ds, digits 0 ds = .ok n ↔
      (∀ d ∈ ds, d.isDigit = true) ∧ Nat.ofDigitChars 10 ds 0 = n ∧ n < UInt64.size := by
    intro ds
    rw [digits_eq_ok_iff (by decide), wordLimit_eq]
  have hword : word? cs = some n ↔ word cs = .ok n := by
    rw [word?]
    cases word cs <;> simp [Except.toOption]
  rw [hword]
  constructor
  · intro h
    unfold word at h
    split at h
    · cases h
    · cases h
    · rename_i ds hne
      exact ⟨['+'], ds, rfl, .inr rfl, fun hnil => hne (by rw [hnil]), (hdigits ds).mp h⟩
    · rename_i hne _ _
      exact ⟨[], cs, rfl, .inl rfl, hne, (hdigits cs).mp h⟩
  · rintro ⟨sign, ds, rfl, hsign, hne, hds⟩
    obtain ⟨d, rest, rfl⟩ := List.exists_cons_of_ne_nil hne
    rcases hsign with rfl | rfl
    · have hd : d ≠ '+' := by
        rintro rfl
        exact absurd (hds.1 '+' List.mem_cons_self) (by decide)
      rw [List.nil_append, word]
      · exact (hdigits _).mpr hds
      · simp
      · simp [hd]
      · simp [hd]
    · exact (hdigits _).mpr hds

/-- A numeral has one value. -/
theorem IsNumeral.unique {cs : List Char} {m n : Nat} (hm : IsNumeral cs m) (hn : IsNumeral cs n) :
    m = n :=
  Option.some.inj ((word?_eq_some_iff.mpr hm).symm.trans (word?_eq_some_iff.mpr hn))

/-- The digits of a number are a numeral. -/
theorem isNumeral_repr {n : Nat} (hn : n < UInt64.size) : IsNumeral n.repr.toList n := by
  rw [Nat.toList_repr]
  exact ⟨[], Nat.toDigits 10 n, rfl, .inl rfl, Nat.toDigits_ne_nil,
    fun d hd => Nat.isDigit_of_mem_toDigits (by decide) (by decide) hd,
      Nat.ofDigitChars_ten_toDigits, hn⟩

end Decimal

end Text

namespace Selection

open Text.Decimal (IsNumeral)

/-! ## Words -/

/-- The parts of a text between commas, without the white space around them. -/
def HasWords (cs : List Char) (words : List (List Char)) : Prop :=
  ∃ parts, Text.IsCut ',' cs parts ∧ List.Forall₂ Text.IsTrim parts words

/-- The first word that is no numeral. -/
def IsFirstOther (words : List (List Char)) (word : List Char) : Prop :=
  ∃ before after, words = before ++ word :: after ∧ (∀ w ∈ before, ∃ n, IsNumeral w n) ∧
    ¬ ∃ n, IsNumeral word n

variable {words : List (List Char)} {word : List Char}

theorem isFirstOther_cons_of_numeral {w : List Char} {n : Nat} (hw : IsNumeral w n) :
    IsFirstOther (w :: words) word ↔ IsFirstOther words word := by
  constructor
  · rintro ⟨_ | ⟨v, before⟩, after, hwords, hbefore, hnone⟩
    · obtain ⟨rfl, -⟩ := List.cons.inj hwords
      exact absurd ⟨n, hw⟩ hnone
    · exact ⟨before, after, (List.cons.inj hwords).2, (List.forall_mem_cons.mp hbefore).2, hnone⟩
  · rintro ⟨before, after, rfl, hbefore, hnone⟩
    exact ⟨w :: before, after, rfl, List.forall_mem_cons.mpr ⟨⟨n, hw⟩, hbefore⟩, hnone⟩

theorem isFirstOther_cons_of_other {w : List Char} (hw : ¬ ∃ n, IsNumeral w n) :
    IsFirstOther (w :: words) word ↔ word = w := by
  constructor
  · rintro ⟨_ | ⟨v, before⟩, after, hwords, hbefore, -⟩
    · exact (List.cons.inj hwords).1.symm
    · obtain ⟨rfl, -⟩ := List.cons.inj hwords
      exact absurd (List.forall_mem_cons.mp hbefore).1 hw
  · rintro rfl
    exact ⟨[], words, rfl, by simp, hw⟩

/-- Some word is the first that is no numeral, unless all are. -/
theorem exists_isFirstOther_iff :
    (∃ word, IsFirstOther words word) ↔ ¬ ∀ w ∈ words, ∃ n, IsNumeral w n := by
  induction words with
  | nil => simp [IsFirstOther]
  | cons w words ih =>
    by_cases hw : ∃ n, IsNumeral w n
    · obtain ⟨n, hn⟩ := hw
      simp only [isFirstOther_cons_of_numeral hn, ih, List.forall_mem_cons, not_and]
      exact ⟨fun h _ => h, fun h => h ⟨n, hn⟩⟩
    · simp [isFirstOther_cons_of_other hw, hw]

/-! ## Parts -/

theorem parsePart_of_numeral {part : List Char} {n : Nat} (h : IsNumeral (Text.trimList part) n) :
    parsePart part = .ok n := by
  rw [parsePart, Text.Decimal.word?_eq_some_iff.mpr h]

theorem parsePart_of_other {part : List Char} (h : ¬ ∃ n, IsNumeral (Text.trimList part) n) :
    parsePart part = .error (.invalidId (String.ofList (Text.trimList part))) := by
  have hnone : Text.Decimal.word? (Text.trimList part) = none := by
    refine Option.eq_none_iff_forall_not_mem.mpr fun n hn => h ⟨n, ?_⟩
    exact Text.Decimal.word?_eq_some_iff.mp hn
  rw [parsePart, hnone]

/-- Reading the parts ends at the first word that is no numeral. -/
theorem parseParts_eq_error_iff {parts : List (List Char)} {e : SelectionError} :
    parseParts parts = .error e ↔
      ∃ word, IsFirstOther (parts.map Text.trimList) word ∧
        e = .invalidId (String.ofList word) := by
  induction parts with
  | nil => simp [parseParts, IsFirstOther]
  | cons part parts ih =>
    rw [parseParts, List.map_cons]
    by_cases hpart : ∃ n, IsNumeral (Text.trimList part) n
    · obtain ⟨n, hn⟩ := hpart
      simp only [parsePart_of_numeral hn, isFirstOther_cons_of_numeral hn, ← ih]
      cases parseParts parts <;> simp
    · simp only [parsePart_of_other hpart, isFirstOther_cons_of_other hpart, exists_eq_left,
        Except.error.injEq]
      exact eq_comm

/-- What is read from numerals is their values. -/
theorem mem_of_parseParts {parts : List (List Char)} {ids : List Nat}
    (h : parseParts parts = .ok ids) (n : Nat) :
    n ∈ ids ↔ ∃ w ∈ parts.map Text.trimList, IsNumeral w n := by
  induction parts generalizing ids with
  | nil =>
    obtain rfl := Except.ok.inj h
    simp
  | cons part parts ih =>
    rw [parseParts] at h
    by_cases hpart : ∃ m, IsNumeral (Text.trimList part) m
    · obtain ⟨m, hm⟩ := hpart
      rw [parsePart_of_numeral hm] at h
      cases hparts : parseParts parts with
      | error e => simp [hparts] at h
      | ok rest =>
        obtain rfl : m :: rest = ids := by simpa [hparts] using h
        have hn : IsNumeral (Text.trimList part) n ↔ n = m :=
          ⟨fun hn => hn.unique hm, fun h => h ▸ hm⟩
        simp only [List.map_cons, List.mem_cons, ih hparts, exists_eq_or_imp, hn]
    · simp [parsePart_of_other hpart] at h

/-! ## Texts -/

/-- What is read from a text with the given words. -/
structure ReadsAs (text : String) (words : List (List Char)) : Prop where
  /-- A text is a selection if every word is a numeral. -/
  accepts : (∃ s, parse text = .ok s) ↔ ∀ w ∈ words, ∃ n, IsNumeral w n
  /-- It selects the values of its words. -/
  value : ∀ s, parse text = .ok s → ∀ n, n ∈ s ↔ ∃ w ∈ words, IsNumeral w n
  empty : parse text = .error .empty ↔ ∀ c ∈ text.toList, Text.isBlank c = true
  /-- In a text that is not blank, the first word that is no numeral is the error. -/
  invalid : ∀ part, parse text = .error (.invalidId part) ↔
    (¬ ∀ c ∈ text.toList, Text.isBlank c = true) ∧ IsFirstOther words part.toList

/-- The words of a text. -/
def wordsOf (cs : List Char) : List (List Char) :=
  (Text.splitOn ',' cs).map Text.trimList

theorem hasWords_iff {cs : List Char} : HasWords cs words ↔ words = wordsOf cs := by
  have htrim : ∀ parts, List.Forall₂ Text.IsTrim parts words ↔ words = parts.map Text.trimList := by
    intro parts
    rw [eq_comm, ← List.forall₂_eq_eq_eq, List.forall₂_map_left_iff]
    exact ⟨fun h => h.imp fun _ _ => Text.isTrim_iff.mp,
      fun h => h.imp fun _ _ => Text.isTrim_iff.mpr⟩
  simp only [HasWords, Text.isCut_iff, exists_eq_left', htrim, wordsOf]

/-- A blank text has one word, which is empty. -/
theorem wordsOf_of_blank {cs : List Char} (h : ∀ c ∈ cs, Text.isBlank c = true) :
    wordsOf cs = [[]] := by
  have hcomma : ',' ∉ cs := fun hmem => absurd (h ',' hmem) (by decide)
  have hcut : Text.IsCut ',' cs [cs] := ⟨by simp, by simpa using hcomma, by simp⟩
  rw [wordsOf, Text.isCut_iff.mp hcut, List.map_singleton, Text.trimList_eq_nil_iff.mpr h]

theorem not_isNumeral_nil (n : Nat) : ¬ IsNumeral [] n := by
  rintro ⟨sign, ds, hcs, -, hne, -⟩
  exact hne (List.append_eq_nil_iff.mp hcs.symm).2

theorem readsAs_of_blank {text : String} (h : ∀ c ∈ text.toList, Text.isBlank c = true) :
    ReadsAs text (wordsOf text.toList) := by
  have hparse : parse text = .error .empty := by
    rw [parse, Text.trimList_eq_nil_iff.mpr h]
    rfl
  refine ⟨?_, by simp [hparse], by simpa [hparse] using h, fun part => ?_⟩
  · simp [hparse, wordsOf_of_blank h, not_isNumeral_nil]
  · exact ⟨fun he => by simp [hparse] at he, fun he => absurd h he.1⟩

theorem readsAs_of_not_blank {text : String} (h : ¬ ∀ c ∈ text.toList, Text.isBlank c = true) :
    ReadsAs text (wordsOf text.toList) := by
  have hparse : parse text = (parseParts (Text.splitOn ',' text.toList)).map IdSet.ofList := by
    rw [parse, if_neg]
    rwa [List.isEmpty_iff, Text.trimList_eq_nil_iff]
  have herror : ∀ e, parse text = .error e ↔
      ∃ word, IsFirstOther (wordsOf text.toList) word ∧ e = .invalidId (String.ofList word) := by
    intro e
    rw [hparse, wordsOf, ← parseParts_eq_error_iff]
    cases parseParts (Text.splitOn ',' text.toList) <;> simp [Except.map]
  refine ⟨?accepts, fun s hs n => ?value, ?empty, fun part => ?invalid⟩
  case accepts =>
    rw [← not_iff_not, ← exists_isFirstOther_iff]
    constructor
    · intro hnot
      cases hresult : parse text with
      | ok s => exact absurd ⟨s, hresult⟩ hnot
      | error e =>
        obtain ⟨word, hword, -⟩ := (herror e).mp hresult
        exact ⟨word, hword⟩
    · rintro ⟨word, hword⟩ ⟨s, hs⟩
      simp [(herror _).mpr ⟨word, hword, rfl⟩] at hs
  case value =>
    cases hparts : parseParts (Text.splitOn ',' text.toList) with
    | error e => simp [hparse, hparts, Except.map] at hs
    | ok ids =>
      obtain rfl : IdSet.ofList ids = s := by simpa [hparse, hparts, Except.map] using hs
      rw [IdSet.mem_ofList, mem_of_parseParts hparts, wordsOf]
  case empty => simp [herror, h]
  case invalid =>
    rw [herror]
    constructor
    · rintro ⟨word, hword, he⟩
      obtain rfl := SelectionError.invalidId.inj he
      exact ⟨h, by rwa [String.toList_ofList]⟩
    · rintro ⟨-, hword⟩
      exact ⟨part.toList, hword, by rw [String.ofList_toList]⟩

theorem readsAs_wordsOf (text : String) : ReadsAs text (wordsOf text.toList) := by
  by_cases h : ∀ c ∈ text.toList, Text.isBlank c = true
  · exact readsAs_of_blank h
  · exact readsAs_of_not_blank h

/-! ## Ids that are written out -/

/-- An id in decimal digits, with white space around it. -/
structure Padded where
  before : List Char
  id : Nat
  after : List Char
  blank_before : ∀ c ∈ before, Text.isBlank c = true
  blank_after : ∀ c ∈ after, Text.isBlank c = true

namespace Padded

/-- The text of an id. -/
def text (x : Padded) : List Char :=
  x.before ++ x.id.repr.toList ++ x.after

theorem isDigit_of_mem_repr {n : Nat} {c : Char} (h : c ∈ n.repr.toList) : c.isDigit = true := by
  rw [Nat.toList_repr] at h
  exact Nat.isDigit_of_mem_toDigits (by decide) (by decide) h

theorem not_isBlank_of_isDigit {c : Char} (h : c.isDigit = true) : Text.isBlank c = false := by
  have hrange : 48 ≤ c.toNat ∧ c.toNat ≤ 57 := by
    simpa [Char.isDigit, UInt32.le_iff_toNat_le] using h
  simp only [Text.isBlank, Text.Ranges.contains, Text.blankRanges, Text.Ranges.has]
  grind

theorem isTrim_text (x : Padded) : Text.IsTrim x.text x.id.repr.toList where
  around := ⟨x.before, x.after, x.blank_before, x.blank_after, rfl⟩
  first _ hc := not_isBlank_of_isDigit (isDigit_of_mem_repr (List.mem_of_mem_head? hc))
  last _ hc := not_isBlank_of_isDigit (isDigit_of_mem_repr (List.mem_of_mem_getLast? hc))

theorem comma_notMem_text (x : Padded) : ',' ∉ x.text := by
  simp only [text, List.mem_append, not_or]
  refine ⟨⟨fun h => ?_, fun h => ?_⟩, fun h => ?_⟩
  · exact absurd (x.blank_before _ h) (by decide)
  · exact absurd (isDigit_of_mem_repr h) (by decide)
  · exact absurd (x.blank_after _ h) (by decide)

end Padded

/-- Ids with commas between them. -/
def written (xs : List Padded) : String :=
  String.ofList ([','].intercalate (xs.map Padded.text))

theorem wordsOf_written {xs : List Padded} (h : xs ≠ []) :
    wordsOf (written xs).toList = xs.map (·.id.repr.toList) := by
  have hcut : Text.IsCut ',' (written xs).toList (xs.map Padded.text) := by
    refine ⟨by simpa using h, ?_, by rw [written, String.toList_ofList]⟩
    simpa using fun x _ => x.comma_notMem_text
  refine (hasWords_iff.mp ⟨_, hcut, ?_⟩).symm
  rw [List.forall₂_map_left_iff, List.forall₂_map_right_iff, List.forall₂_same]
  exact fun x _ => x.isTrim_text

/-- Ids that are written out are read back. -/
theorem parse_written {s : IdSet} {xs : List Padded} (hne : s ≠ ∅) (hfit : ∀ i ∈ s, i < UInt64.size)
    (hids : ∀ i, i ∈ s ↔ i ∈ xs.map (·.id)) : parse (written xs) = .ok s := by
  have hxs : xs ≠ [] := by
    rintro rfl
    exact hne (IdSet.ext fun i => by simp [hids])
  have hnumeral : ∀ x ∈ xs, IsNumeral x.id.repr.toList x.id := fun x hx =>
    Text.Decimal.isNumeral_repr (hfit x.id ((hids x.id).mpr (List.mem_map_of_mem hx)))
  have hreads := readsAs_wordsOf (written xs)
  rw [wordsOf_written hxs] at hreads
  obtain ⟨t, ht⟩ := hreads.accepts.mpr <|
    List.forall_mem_map.mpr fun x hx => ⟨x.id, hnumeral x hx⟩
  rw [ht]
  refine congrArg _ (IdSet.ext fun i => ?_)
  rw [hreads.value t ht, hids]
  constructor
  · rintro ⟨_, hw, hi⟩
    obtain ⟨x, hx, rfl⟩ := List.mem_map.mp hw
    exact List.mem_map.mpr ⟨x, hx, (hnumeral x hx).unique hi⟩
  · intro hi
    obtain ⟨x, hx, rfl⟩ := List.mem_map.mp hi
    exact ⟨_, List.mem_map_of_mem hx, hnumeral x hx⟩

/-- **Selections are read exactly.** A text has one list of words. It is a selection if each of them
is a numeral of 64 bits, and selects their values; it is empty if it is blank; otherwise its first
word that is no numeral is the error. A set of ids that is written out in any order, with ids
repeated and white space around them, is read back. Pruning by a text is pruning by its selection,
and leaves the projection as it is if the text is none. -/
theorem parse_reads_exactly :
    (∀ text : String, ∃ words, (∀ ws, HasWords text.toList ws ↔ ws = words) ∧ ReadsAs text words) ∧
    (∀ (s : IdSet) (xs : List Padded),
      s ≠ ∅ → (∀ i ∈ s, i < UInt64.size) → (∀ i, i ∈ s ↔ i ∈ xs.map (·.id)) →
      parse (written xs) = .ok s) ∧
    ∀ (p : Projection) (text : String),
      (∀ s, parse text = .ok s → p.pruneByText text = (p.prune s, [])) ∧
      ∀ e, parse text = .error e → p.pruneByText text = (p, [e.warning text]) := by
  refine ⟨fun text => ⟨wordsOf text.toList, fun ws => hasWords_iff, readsAs_wordsOf text⟩,
    fun s xs => parse_written, fun p text => ⟨fun s hs => ?_, fun e he => ?_⟩⟩
  · rw [Projection.pruneByText, hs]
  · rw [Projection.pruneByText, he]

/-- The greatest id and a smaller one, which comes twice. -/
def paddedIds : List Padded := [
  ⟨[' '], 7, [], List.all_eq_true.mp (by decide), List.all_eq_true.mp (by decide)⟩,
  ⟨[], 18446744073709551615, ['\t', '\u3000'], List.all_eq_true.mp (by decide),
    List.all_eq_true.mp (by decide)⟩,
  ⟨['\n'], 7, [' '], List.all_eq_true.mp (by decide), List.all_eq_true.mp (by decide)⟩]

theorem parse_reads_exactly_padded :
    let s : IdSet := ⟨[7, 18446744073709551615], by decide⟩
    s ≠ ∅ ∧ (∀ i ∈ s, i < UInt64.size) ∧ (∀ i, i ∈ s ↔ i ∈ paddedIds.map (·.id)) ∧
    written paddedIds = " 7,18446744073709551615\t\u3000,\n7 " ∧
      parse (written paddedIds) = .ok s := by
  intro s
  have hne : s ≠ ∅ := by decide
  have hfit : ∀ i ∈ s, i < UInt64.size := by decide
  have hids : ∀ i, i ∈ s ↔ i ∈ paddedIds.map (·.id) := by
    intro i
    have hlist : paddedIds.map (·.id) = [7, 18446744073709551615, 7] := rfl
    rw [IdSet.mem_def, hlist]
    simp only [s, List.mem_cons, List.not_mem_nil, or_false]
    omega
  exact ⟨hne, hfit, hids, by decide, parse_reads_exactly.2.1 s paddedIds hne hfit hids⟩

/-- A sign and leading zeros are read over, and the first word that is no numeral is the error. -/
example : parse "+007, 1 2 ,x" = .error (.invalidId "1 2") := by decide

end Selection

end CallAtlas
