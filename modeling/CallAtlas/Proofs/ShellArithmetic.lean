import Mathlib.Data.List.TakeWhile
import CallAtlas.Shell.Arithmetic

/-!
# Arithmetic and variables

The text of a number is read back as the number (`Arithmetic.wholeNumber_text`), although a zero in
front of a text would make it octal. So a variable holds what was assigned to it
(`Arithmetic.lookUp_of_assign`), and evaluating puts assigned variables in front of those that were
given and changes nothing else (`Arithmetic.suffix_of_value`).
-/

namespace CallAtlas.Shell.Arithmetic

open CallAtlas.Text

/-! ## Written numbers -/

/-- Only zero is written with a zero in front. -/
theorem toDigits_of_pos {n : Nat} (hn : 0 < n) : ∃ c cs, Nat.toDigits 10 n = c :: cs ∧ c ≠ '0' := by
  induction n using Nat.strongRecOn with
  | ind n ih =>
    by_cases hlt : n < 10
    · have hdigit : ∀ n < 10, 0 < n → Nat.digitChar n ≠ '0' := by decide
      exact ⟨_, [], Nat.toDigits_of_lt_base hlt, hdigit n hlt hn⟩
    · obtain ⟨c, cs, hcs, hc⟩ := ih (n / 10) (by omega) (by omega)
      refine ⟨c, cs ++ [Nat.digitChar (n % 10)], ?_, hc⟩
      rw [Nat.toDigits_of_base_le (by decide) (by omega), hcs, List.cons_append]

/-- The digits of a number, as numbers of characters. -/
theorem toNat_of_mem_toDigits {n : Nat} {c : Char} (h : c ∈ Nat.toDigits 10 n) :
    Decimal.isDigit c = true ∧ 48 ≤ c.toNat ∧ c.toNat ≤ 57 := by
  have hdigit : c.isDigit = true := Nat.isDigit_of_mem_toDigits (by decide) (by decide) h
  exact ⟨hdigit, by simpa [Char.isDigit, UInt32.le_iff_toNat_le] using hdigit⟩

theorem digitsIn_toDigits (n : Nat) :
    digitsIn 10 (Nat.toDigits 10 n) = (Nat.toDigits 10 n, []) := by
  have hdigit : ∀ c ∈ Nat.toDigits 10 n,
      (Decimal.isDigit c && decide (Decimal.digit c < 10)) = true := by
    intro c hc
    obtain ⟨hc, -, hle⟩ := toNat_of_mem_toDigits hc
    have hlt : Decimal.digit c < 10 := show c.toNat - 48 < 10 by omega
    simp [hc, hlt]
  rw [digitsIn, Prod.mk.injEq]
  exact ⟨List.takeWhile_eq_self_iff.mpr hdigit, List.dropWhile_eq_nil_iff.mpr hdigit⟩

theorem foldl_digitValue {ds : List Char} (h : ∀ c ∈ ds, Decimal.isDigit c = true) (n : Nat) :
    ds.foldl (fun n c => 10 * n + digitValue c) n = Nat.ofDigitChars 10 ds n := by
  induction ds generalizing n with
  | nil => rfl
  | cons c ds ih =>
    have hvalue : digitValue c = Decimal.digit c := if_pos (h c List.mem_cons_self)
    rw [List.foldl_cons, ih (fun c hc => h c (List.mem_cons_of_mem _ hc)), hvalue,
      Nat.ofDigitChars_cons]
    rfl

/-- Two digits with a zero in front are not how a number is written. -/
theorem toDigits_ne_zero_cons (n : Nat) (c : Char) (cs : List Char) :
    Nat.toDigits 10 n ≠ '0' :: c :: cs := by
  intro heq
  rcases Nat.eq_zero_or_pos n with rfl | hn
  · simp at heq
  · obtain ⟨d, ds, hds, hd⟩ := toDigits_of_pos hn
    exact hd (List.cons.inj (hds.symm.trans heq)).1

theorem number_toDigits (n : Nat) : number (Nat.toDigits 10 n) = some (n, []) := by
  have hvalue : (Nat.toDigits 10 n).foldl (fun n c => 10 * n + digitValue c) 0 = n := by
    rw [foldl_digitValue fun c hc => (toNat_of_mem_toDigits hc).1, Nat.ofDigitChars_ten_toDigits]
  rw [number, digitsIn_toDigits]
  · simp [hvalue, Nat.toDigits_ne_nil]
  · exact toDigits_ne_zero_cons n

theorem signedNumber_repr {n : Nat} (hn : n ≤ greatest) :
    signedNumber n.repr = some ((n : Int), []) := by
  obtain ⟨c, cs, hcs⟩ := List.exists_cons_of_ne_nil (Nat.toDigits_ne_nil : Nat.toDigits 10 n ≠ [])
  obtain ⟨-, hle, -⟩ := toNat_of_mem_toDigits (hcs ▸ List.mem_cons_self : c ∈ Nat.toDigits 10 n)
  have hfirst {d : Char} (hd : d.toNat < 48) : c ≠ d := by
    rintro rfl
    omega
  have hreturn : ¬c ≤ '\r' := fun h => by
    have := UInt32.le_iff_toNat_le.mp h
    exact absurd (hle.trans this) (by decide)
  rw [signedNumber, Nat.toList_repr, hcs, List.dropWhile_cons,
    if_neg (by simp [hfirst (show ' '.toNat < 48 by decide), hreturn])]
  have hnumber := number_toDigits n
  rw [hcs] at hnumber
  split
  · rename_i heq
    exact absurd (List.cons.inj heq).1 (hfirst (by decide))
  · rename_i heq
    exact absurd (List.cons.inj heq).1 (hfirst (by decide))
  · simp only [hnumber, Option.map_some, Nat.min_eq_left hn]

theorem signedNumber_neg_repr {n : Nat} (hn : n ≤ greatest + 1) :
    signedNumber ("-" ++ n.repr) = some (-(n : Int), []) := by
  have hsign : "-".toList = ['-'] := rfl
  rw [signedNumber, String.toList_append, Nat.toList_repr, hsign, List.singleton_append,
    List.dropWhile_cons, if_neg (by decide)]
  simp only [number_toDigits, Option.map_some, Nat.min_eq_left hn]

/-! ## Written variables -/

/-- **The text of a number is read back as the number.** -/
theorem wholeNumber_text (n : Int64) : wholeNumber (text n) = .ok n := by
  have hsigned : signedNumber (text n) = some (n.toInt, []) := by
    rw [text, Int.toString_eq_repr]
    have hlt := n.toInt_lt
    have hle := n.le_toInt
    cases hn : n.toInt with
    | ofNat m =>
      have hm : m ≤ greatest := by
        rw [hn, Int.ofNat_eq_natCast] at hlt
        simp only [greatest]
        omega
      exact signedNumber_repr hm
    | negSucc m =>
      have hm : m + 1 ≤ greatest + 1 := by
        simp only [greatest]
        omega
      exact signedNumber_neg_repr hm
  rw [wholeNumber, hsigned]
  simp

theorem lookUp_text (e : Environment) (name : String) (n : Int64) :
    lookUp ((name, text n) :: e) name = .ok n := by
  have hread := wholeNumber_text n
  rw [lookUp, List.lookup_cons_self]
  split
  · rename_i heq
    simp at heq
  · rename_i heq
    have hempty : wholeNumber "" = .error (.illegalNumber "") := rfl
    rw [Option.some.inj heq, hempty] at hread
    cases hread
  · rename_i heq
    rw [← Option.some.inj heq, hread]

/-! ## What evaluating changes -/

theorem exists_of_bind_eq_ok {α β : Type} {x : Except Fault α} {f : α → Except Fault β} {b : β}
    (h : x >>= f = .ok b) : ∃ a, x = .ok a ∧ f a = .ok b := by
  cases x with
  | error => cases h
  | ok a => exact ⟨a, rfl, h⟩

/-- What an assignment does. -/
theorem value_assign {name operator : String} {a : Arithmetic} {e e' : Environment} {n : Int64}
    (h : value (.assign name operator a) e = .ok (n, e')) :
    ∃ m before, value a e = .ok (m, before) ∧ e' = (name, text n) :: before := by
  rw [value] at h
  obtain ⟨⟨m, before⟩, ha, h⟩ := exists_of_bind_eq_ok h
  refine ⟨m, before, ha, ?_⟩
  dsimp only at h
  split at h
  · obtain ⟨rfl, rfl⟩ := Prod.mk.inj (Except.ok.inj h)
    rfl
  · obtain ⟨old, -, h⟩ := exists_of_bind_eq_ok h
    obtain ⟨k, -, h⟩ := exists_of_bind_eq_ok h
    obtain ⟨rfl, rfl⟩ := Prod.mk.inj (Except.ok.inj h)
    rfl

/-- **A variable holds what was assigned to it.** -/
theorem lookUp_of_assign {name operator : String} {a : Arithmetic} {e e' : Environment} {n : Int64}
    (h : value (.assign name operator a) e = .ok (n, e')) : lookUp e' name = .ok n := by
  obtain ⟨-, before, -, rfl⟩ := value_assign h
  exact lookUp_text before name n

/-- **Evaluating puts variables in front of those that were given.** -/
theorem suffix_of_value {a : Arithmetic} {e e' : Environment} {n : Int64}
    (h : value a e = .ok (n, e')) : e <:+ e' := by
  induction a generalizing e e' n with
  | constant m =>
    obtain ⟨-, rfl⟩ := Prod.mk.inj (Except.ok.inj h)
    exact List.suffix_rfl
  | named name =>
    rw [value] at h
    cases hname : lookUp e name with
    | error f =>
      rw [hname] at h
      cases h
    | ok m =>
      rw [hname] at h
      obtain ⟨-, rfl⟩ := Prod.mk.inj (Except.ok.inj h)
      exact List.suffix_rfl
  | unary operator a ih =>
    rw [value] at h
    obtain ⟨⟨m, before⟩, ha, h⟩ := exists_of_bind_eq_ok h
    obtain ⟨-, rfl⟩ := Prod.mk.inj (Except.ok.inj h)
    exact ih ha
  | binary operator a b iha ihb =>
    rw [value] at h
    obtain ⟨⟨m, before⟩, ha, h⟩ := exists_of_bind_eq_ok h
    have hbefore := iha ha
    dsimp only at h
    -- the second operand is left out, or evaluated after the first
    split at h
    · rwa [← (Prod.mk.inj (Except.ok.inj h)).2]
    · split at h
      · rwa [← (Prod.mk.inj (Except.ok.inj h)).2]
      · obtain ⟨⟨k, after⟩, hb, h⟩ := exists_of_bind_eq_ok h
        have hafter := hbefore.trans (ihb hb)
        dsimp only at h
        split at h
        · rwa [← (Prod.mk.inj (Except.ok.inj h)).2]
        · obtain ⟨result, -, h⟩ := exists_of_bind_eq_ok h
          rwa [← (Prod.mk.inj (Except.ok.inj h)).2]
  | conditional test yes no ihtest ihyes ihno =>
    rw [value] at h
    obtain ⟨⟨m, before⟩, htest, h⟩ := exists_of_bind_eq_ok h
    dsimp only at h
    split at h
    · exact (ihtest htest).trans (ihyes h)
    · exact (ihtest htest).trans (ihno h)
  | assign name operator a ih =>
    obtain ⟨m, before, ha, rfl⟩ := value_assign h
    exact (ih ha).trans (List.suffix_cons _ _)

end CallAtlas.Shell.Arithmetic
