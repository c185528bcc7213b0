import Mathlib.Data.List.Infix
import CallAtlas.Text.Scanner

/-!
# Scanners and the texts that they take

What a scanner gives is computed step by step (`Text.Scanner.bind_apply` and the equations after
it). A scanner takes a text if it takes just that text from the front of every longer one
(`Text.Scanner.Takes`), or of every one that goes on in an allowed way
(`Text.Scanner.TakesBefore`). This is kept by sequences, by a choice between words of which none
starts with another, and by repetition (`Text.Scanner.many_eq`).
-/

namespace CallAtlas.Text.Scanner

variable {α β : Type}

/-! ## Steps -/

@[simp] theorem bind_apply (r : Scanner α) (next : α → Scanner β) (cs : List Char) :
    (r >>= next) cs = (r cs).bind fun x => next x.1 x.2 :=
  rfl

@[simp] theorem pure_apply (a : α) (cs : List Char) : (pure a : Scanner α) cs = some (a, cs) :=
  rfl

@[simp] theorem failure_apply (cs : List Char) : (failure : Scanner α) cs = none :=
  rfl

@[simp] theorem map_apply (f : α → β) (r : Scanner α) (cs : List Char) :
    (f <$> r) cs = (r cs).map fun x => (f x.1, x.2) := by
  cases h : r cs <;> simp [Functor.map, StateT.map, h]

@[simp] theorem orElse_apply (r s : Scanner α) (cs : List Char) :
    (r <|> s) cs = (r cs).or (s cs) := by
  change (r cs).orElse (fun _ => s cs) = _
  cases r cs <;> rfl

@[simp] theorem optional_apply (r : Scanner α) (cs : List Char) :
    (optional r : Scanner (Option α)) cs =
      ((r cs).map fun x => (some x.1, x.2)).or (some (none, cs)) := by
  rw [optional, orElse_apply, map_apply]
  rfl

@[simp] theorem require_apply (b : Bool) (cs : List Char) :
    require b cs = if b then some ((), cs) else none := by
  cases b <;> rfl

@[simp] theorem satisfy_cons (p : Char → Bool) (c : Char) (cs : List Char) :
    satisfy p (c :: cs) = if p c then some (c, cs) else none := by
  change (require (p c) (c :: cs)).bind (fun _ => some (c, cs)) = _
  rw [require_apply]
  split <;> rfl

@[simp] theorem satisfy_nil (p : Char → Bool) : satisfy p [] = none :=
  rfl

@[simp] theorem char_cons (d c : Char) (cs : List Char) :
    char d (c :: cs) = if c = d then some ((), cs) else none := by
  rw [char, bind_apply, satisfy_cons]
  by_cases h : c = d
  · simp [h]
  · simp [h]

@[simp] theorem char_nil (d : Char) : char d [] = none :=
  rfl

@[simp] theorem takeWhile_apply (p : Char → Bool) (cs : List Char) :
    takeWhile p cs = some (cs.takeWhile p, cs.dropWhile p) :=
  rfl

theorem text_apply (w : String) (cs : List Char) :
    text w cs = if w.toList.isPrefixOf cs then some ((), cs.drop w.length) else none := by
  change (require (w.toList.isPrefixOf cs) cs).bind (fun _ => some ((), cs.drop w.length)) = _
  rw [require_apply]
  split <;> rfl

theorem reads_apply (r : Scanner α) (cs : List Char) :
    reads r cs = ((r cs).map fun x => (true, x.2)).or (some (false, cs)) := by
  rw [reads, orElse_apply, bind_apply]
  cases r cs <;> rfl

/-! ## Texts that are taken -/

/-- A scanner takes a text from the front of every text that starts with it, and gives a value. -/
def Takes (r : Scanner α) (s : List Char) (a : α) : Prop :=
  ∀ rest, r (s ++ rest) = some (a, rest)

theorem takes_pure (a : α) : Takes (pure a) [] a :=
  fun _ => rfl

theorem Takes.bind {r : Scanner α} {next : α → Scanner β} {s t : List Char} {a : α} {b : β}
    (hr : Takes r s a) (hnext : Takes (next a) t b) : Takes (r >>= next) (s ++ t) b := by
  intro rest
  rw [bind_apply, List.append_assoc, hr, Option.bind_some, hnext]

theorem Takes.whole {r : Scanner α} {s : List Char} {a : α} (h : Takes r s a) :
    whole r s = some a := by
  have hall : r s = some (a, []) := by simpa using h []
  rw [Scanner.whole, hall]

theorem takes_text (w : String) : Takes (text w) w.toList () := by
  intro rest
  rw [text_apply, if_pos (by simp), ← String.length_toList, List.drop_left]

/-! ## A choice of words -/

/-- Go on after the first word of a table that is in front. -/
def choose : List (String × Scanner α) → Scanner α
  | [] => failure
  | (word, next) :: table => do
    if ← reads (text word) then next else choose table

theorem choose_cons (word : String) (next : Scanner α) (table : List (String × Scanner α))
    (cs : List Char) :
    choose ((word, next) :: table) cs =
      if word.toList.isPrefixOf cs then next (cs.drop word.length) else choose table cs := by
  rw [choose, bind_apply, reads_apply, text_apply]
  split <;> rfl

/-- No word starts with another one. -/
def Apart (words : List String) : Prop :=
  words.Pairwise fun v w => ¬v.toList <+: w.toList ∧ ¬w.toList <+: v.toList
  deriving Decidable

/-- A choice takes a word of its table and what comes after it. -/
theorem Takes.choose {table : List (String × Scanner α)} (hapart : Apart (table.map (·.1)))
    {word : String} {next : Scanner α} (hword : (word, next) ∈ table) {s : List Char} {a : α}
    (hnext : Takes next s a) :
    Takes (choose table) (word.toList ++ s) a := by
  intro rest
  rw [List.append_assoc]
  induction table with
  | nil => cases hword
  | cons entry table ih =>
    obtain ⟨hfirst, htable⟩ := List.pairwise_cons.mp hapart
    rw [choose_cons]
    rcases List.mem_cons.mp hword with rfl | hword
    · rw [if_pos (by simp), ← String.length_toList, List.drop_left]
      exact hnext rest
    · obtain ⟨hno, hno'⟩ := hfirst word (List.mem_map_of_mem hword)
      rw [if_neg, ih htable hword]
      intro hfront
      rcases List.prefix_or_prefix_of_prefix (List.isPrefixOf_iff_prefix.mp hfront)
        (List.prefix_append word.toList _) with h | h
      · exact hno h
      · exact hno' h

/-! ## Repetition -/

/-- A scanner takes a text from the front of every text that goes on in an allowed way. -/
def TakesBefore (allowed : List Char → Prop) (r : Scanner α) (s : List Char) (a : α) : Prop :=
  ∀ rest, allowed rest → r (s ++ rest) = some (a, rest)

/-- Texts that can be taken one after another, up to a rest where the scanner fails. -/
structure Runs (allowed : List Char → Prop) (r : Scanner α) (items : List (List Char × α))
    (rest : List Char) : Prop where
  takes : ∀ x ∈ items, TakesBefore allowed r x.1 x.2
  fills : ∀ x ∈ items, x.1 ≠ []
  follows : ∀ x ∈ items, ∀ more, allowed (x.1 ++ more)
  stays : allowed rest
  ends : r rest = none

theorem manyUpTo_eq {allowed : List Char → Prop} {r : Scanner α} {items : List (List Char × α)}
    {rest : List Char} (h : Runs allowed r items rest) {n : Nat} (hn : items.length ≤ n) :
    manyUpTo r n (items.flatMap (·.1) ++ rest) = some (items.map (·.2), rest) := by
  induction items generalizing n with
  | nil =>
    cases n with
    | zero => rfl
    | succ n => simp [manyUpTo, h.ends]
  | cons x items ih =>
    obtain ⟨n, rfl⟩ : ∃ m, n = m + 1 := Nat.exists_eq_succ_of_ne_zero (by simp at hn; omega)
    have hitems : Runs allowed r items rest :=
      ⟨fun y hy => h.takes y (.tail _ hy), fun y hy => h.fills y (.tail _ hy),
        fun y hy => h.follows y (.tail _ hy), h.stays, h.ends⟩
    have hallowed : allowed (items.flatMap (·.1) ++ rest) := by
      cases items with
      | nil => exact h.stays
      | cons y items =>
        rw [List.flatMap_cons, List.append_assoc]
        exact h.follows y (by simp) _
    have hx := h.takes x (by simp) _ hallowed
    have hmore := ih hitems (Nat.le_of_succ_le_succ hn)
    rw [List.flatMap_cons, List.append_assoc, manyUpTo, bind_apply, optional_apply, hx]
    simp [hmore]

/-- Repetition takes one text after another. -/
theorem many_eq {allowed : List Char → Prop} {r : Scanner α} {items : List (List Char × α)}
    {rest : List Char} (h : Runs allowed r items rest) :
    many r (items.flatMap (·.1) ++ rest) = some (items.map (·.2), rest) := by
  have hlength : items.length ≤ (items.flatMap (·.1) ++ rest).length := by
    have hfills := h.fills
    clear h
    induction items with
    | nil => exact Nat.zero_le _
    | cons x items ih =>
      have hx := List.length_pos_iff.mpr (hfills x (by simp))
      have hmore := ih fun y hy => hfills y (.tail _ hy)
      simp only [List.flatMap_cons, List.length_append, List.length_cons] at hmore ⊢
      omega
  change manyUpTo r _ _ = _
  exact manyUpTo_eq h hlength

theorem many_of_none {r : Scanner α} {cs : List Char} (h : r cs = none) :
    many r cs = some ([], cs) := by
  have hruns : Runs (fun _ => True) r [] cs := ⟨by simp, by simp, by simp, trivial, h⟩
  exact many_eq hruns

end CallAtlas.Text.Scanner
