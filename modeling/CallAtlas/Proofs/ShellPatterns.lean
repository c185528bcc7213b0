import CallAtlas.Shell.Pattern

/-!
# What patterns match

`Pattern.Matches` says what a pattern matches, part by part. The test `Pattern.fits` decides it
(`Pattern.fits_iff`), and a pattern made of two matches what they match one after the other
(`Pattern.matches_append`). A quoted text matches itself and nothing else
(`Pattern.matches_quoted`).

A start or an end of a text that is taken off is the shortest or the longest that the pattern
matches, and nothing is taken off if there is none (`Pattern.dropStart_spec`,
`Pattern.dropEnd_spec`).
-/

namespace CallAtlas.Shell.Pattern

/-! ## Matching -/

/-- What a pattern matches. -/
inductive Matches : Pattern → List UInt8 → Prop where
  | nil : Matches [] []
  | one (b : UInt8) {p : Pattern} {bs : List UInt8} :
    Matches p bs → Matches (.one b :: p) (b :: bs)
  | any (b : UInt8) {p : Pattern} {bs : List UInt8} : Matches p bs → Matches (.any :: p) (b :: bs)
  | set (negated : Bool) (members : List Member) (b : UInt8) {p : Pattern} {bs : List UInt8} :
    members.any (Member.holds b) ≠ negated → Matches p bs →
    Matches (.set negated members :: p) (b :: bs)
  | many (skipped : List UInt8) {p : Pattern} {bs : List UInt8} :
    Matches p bs → Matches (.many :: p) (skipped ++ bs)

theorem mem_ends_iff {bs cs : List UInt8} : cs ∈ ends bs ↔ cs <:+ bs := by
  induction bs with
  | nil => simp [ends]
  | cons b bs ih => rw [ends, List.mem_cons, ih, List.suffix_cons_iff]

theorem Matches.of_fits {p : Pattern} {bs : List UInt8} (h : p.fits bs) : Matches p bs := by
  induction p generalizing bs with
  | nil =>
    rw [List.isEmpty_iff.mp h]
    exact .nil
  | cons part p ih =>
    cases part with
    | many =>
      obtain ⟨cs, hcs, hfits⟩ := List.any_eq_true.mp h
      obtain ⟨skipped, rfl⟩ := mem_ends_iff.mp hcs
      exact .many skipped (ih hfits)
    | one c =>
      cases bs with
      | nil => simp [fits] at h
      | cons b bs =>
        obtain ⟨rfl, hfits⟩ : c = b ∧ fits p bs := by simpa [fits] using h
        exact .one c (ih hfits)
    | any =>
      cases bs with
      | nil => simp [fits] at h
      | cons b bs => exact .any b (ih h)
    | set negated members =>
      cases bs with
      | nil => simp [fits] at h
      | cons b bs =>
        obtain ⟨hb, hfits⟩ := Bool.and_eq_true_iff.mp h
        exact .set negated members b (bne_iff_ne.mp hb) (ih hfits)

theorem Matches.fits {p : Pattern} {bs : List UInt8} (h : Matches p bs) : p.fits bs := by
  induction h with
  | nil => rfl
  | one b _ ih => simp [Pattern.fits, ih]
  | any b _ ih => simp [Pattern.fits, ih]
  | set negated members b hb _ ih => simp [Pattern.fits, ih, hb]
  | many skipped _ ih =>
    rw [Pattern.fits, List.any_eq_true]
    exact ⟨_, mem_ends_iff.mpr (List.suffix_append skipped _), ih⟩

/-- **The test decides what a pattern matches.** -/
theorem fits_iff {p : Pattern} {bs : List UInt8} : p.fits bs ↔ Matches p bs :=
  ⟨.of_fits, fun h => h.fits⟩

/-- A pattern that goes on matches one half of a text after the other. -/
theorem matches_append {p q : Pattern} {bs : List UInt8} :
    Matches (p ++ q) bs ↔ ∃ cs ds, cs ++ ds = bs ∧ Matches p cs ∧ Matches q ds := by
  constructor
  · intro h
    induction p generalizing bs with
    | nil => exact ⟨[], bs, rfl, .nil, h⟩
    | cons part p ih =>
      rw [List.cons_append] at h
      cases h with
      | one b h =>
        obtain ⟨cs, ds, rfl, hp, hq⟩ := ih h
        exact ⟨b :: cs, ds, rfl, .one b hp, hq⟩
      | any b h =>
        obtain ⟨cs, ds, rfl, hp, hq⟩ := ih h
        exact ⟨b :: cs, ds, rfl, .any b hp, hq⟩
      | set negated members b hb h =>
        obtain ⟨cs, ds, rfl, hp, hq⟩ := ih h
        exact ⟨b :: cs, ds, rfl, .set negated members b hb hp, hq⟩
      | many skipped h =>
        obtain ⟨cs, ds, rfl, hp, hq⟩ := ih h
        exact ⟨skipped ++ cs, ds, List.append_assoc .., .many skipped hp, hq⟩
  · rintro ⟨cs, ds, rfl, hp, hq⟩
    induction hp with
    | nil => exact hq
    | one b _ ih => exact .one b ih
    | any b _ ih => exact .any b ih
    | set negated members b hb _ ih => exact .set negated members b hb ih
    | many skipped _ ih =>
      rw [List.append_assoc]
      exact .many skipped ih

/-! ## Quoted texts -/

theorem ofMarkedUpTo_quoted (bs : List UInt8) (n : Nat) (hn : bs.length ≤ n) :
    ofMarkedUpTo n (bs.map (·, true)) = bs.map .one := by
  induction bs generalizing n with
  | nil => cases n <;> rfl
  | cons b bs ih =>
    cases n with
    | zero => simp at hn
    | succ n =>
      rw [List.map_cons, ofMarkedUpTo, ih n (by simpa using hn)]
      rfl

theorem ofMarked_quoted (s : String) :
    ofMarked (marked true s) = s.toUTF8.toList.map .one := by
  rw [ofMarked, marked, ofMarkedUpTo_quoted _ _ (by simp)]

theorem matches_map_one {bs cs : List UInt8} : Matches (bs.map .one) cs ↔ cs = bs := by
  constructor
  · intro h
    induction bs generalizing cs with
    | nil =>
      cases h
      rfl
    | cons b bs ih =>
      cases h with
      | one b h => rw [ih h]
  · rintro rfl
    induction cs with
    | nil => exact .nil
    | cons b bs ih => exact .one b ih

/-- **A quoted text matches itself** and nothing else, whatever characters it has. -/
theorem matches_quoted {s : String} {bs : List UInt8} :
    Matches (ofMarked (marked true s)) bs ↔ bs = s.toUTF8.toList := by
  rw [ofMarked_quoted, matches_map_one]

/-! ## Starts and ends -/

/-- The first of two lengths is at least as good, if the longest or the shortest is wanted. -/
def IsPreferred (longest : Bool) (n m : Nat) : Prop :=
  if longest then m ≤ n else n ≤ m

theorem IsPreferred.refl (longest : Bool) (n : Nat) : IsPreferred longest n n := by
  cases longest <;> simp [IsPreferred]

/-- The lengths up to a bound, in the order they are tried in. -/
def lengths (longest : Bool) (k : Nat) : List Nat :=
  if longest then (List.range (k + 1)).reverse else List.range (k + 1)

theorem mem_lengths {longest : Bool} {k n : Nat} : n ∈ lengths longest k ↔ n ≤ k := by
  cases longest <;> simp [lengths, Nat.lt_succ_iff]

theorem pairwise_lengths (longest : Bool) (k : Nat) :
    (lengths longest k).Pairwise (IsPreferred longest) := by
  cases longest with
  | false => exact List.pairwise_le_range.imp fun h => by simpa [IsPreferred] using h
  | true =>
    refine List.pairwise_reverse.mpr (List.pairwise_le_range.imp fun h => ?_)
    simpa [IsPreferred] using h

/-- The first part that is matched is the best of those that are. -/
theorem firstLength_cases (p : Pattern) (part : Nat → List UInt8) (longest : Bool) (k : Nat) :
    (∃ n, firstLength (fun n => p.fits (part n)) (lengths longest k) = n ∧ n ≤ k ∧
      Matches p (part n) ∧ ∀ m ≤ k, Matches p (part m) → IsPreferred longest n m) ∨
    (firstLength (fun n => p.fits (part n)) (lengths longest k) = 0 ∧
      ∀ m ≤ k, ¬Matches p (part m)) := by
  cases hfind : (lengths longest k).find? fun n => p.fits (part n) with
  | none =>
    refine .inr ⟨by rw [firstLength, hfind]; rfl, fun m hm hmatch => ?_⟩
    exact List.find?_eq_none.mp hfind m (mem_lengths.mpr hm) hmatch.fits
  | some n =>
    obtain ⟨hfits, before, after, heq, hbefore⟩ := List.find?_eq_some_iff_append.mp hfind
    have hn : n ≤ k := mem_lengths.mp (List.mem_of_find?_eq_some hfind)
    refine .inl ⟨n, by rw [firstLength, hfind]; rfl, hn, fits_iff.mp hfits, fun m hm hmatch => ?_⟩
    have hpairwise := pairwise_lengths longest k
    have hmem : m ∈ lengths longest k := mem_lengths.mpr hm
    rw [heq] at hpairwise hmem
    rcases List.mem_append.mp hmem with hmem | hmem
    · exact absurd hmatch.fits (by simpa using hbefore m hmem)
    · rcases List.mem_cons.mp hmem with rfl | hmem
      · exact .refl longest m
      · exact (List.pairwise_cons.mp (List.pairwise_append.mp hpairwise).2.1).1 m hmem

/-- **What is taken off the start** is the shortest or the longest start that is matched. -/
theorem dropStart_spec (p : Pattern) (longest : Bool) (bs : List UInt8) :
    (∃ start, start ++ p.dropStart longest bs = bs ∧ Matches p start ∧
      ∀ other, other <+: bs → Matches p other → IsPreferred longest start.length other.length) ∨
    (p.dropStart longest bs = bs ∧ ∀ other, other <+: bs → ¬Matches p other) := by
  have hdrop : p.dropStart longest bs =
      bs.drop (firstLength (fun n => p.fits (bs.take n)) (lengths longest bs.length)) := rfl
  have htake {other : List UInt8} (h : other <+: bs) : bs.take other.length = other :=
    (List.prefix_iff_eq_take.mp h).symm
  rw [hdrop]
  rcases firstLength_cases p (bs.take ·) longest bs.length with
    ⟨n, hn, hle, hmatch, hbest⟩ | ⟨hzero, hnone⟩
  · rw [hn]
    refine .inl ⟨bs.take n, List.take_append_drop n bs, hmatch, fun other h hother => ?_⟩
    rw [List.length_take_of_le hle]
    exact hbest _ h.length_le (by rwa [htake h])
  · rw [hzero]
    exact .inr ⟨rfl, fun other h hother => hnone _ h.length_le (by rwa [htake h])⟩

/-- **What is taken off the end** is the shortest or the longest end that is matched. -/
theorem dropEnd_spec (p : Pattern) (longest : Bool) (bs : List UInt8) :
    (∃ rest, p.dropEnd longest bs ++ rest = bs ∧ Matches p rest ∧
      ∀ other, other <:+ bs → Matches p other → IsPreferred longest rest.length other.length) ∨
    (p.dropEnd longest bs = bs ∧ ∀ other, other <:+ bs → ¬Matches p other) := by
  have hdrop : p.dropEnd longest bs = bs.take (bs.length -
      firstLength (fun n => p.fits (bs.drop (bs.length - n))) (lengths longest bs.length)) := rfl
  have hend {other : List UInt8} (h : other <:+ bs) :
      bs.drop (bs.length - other.length) = other :=
    (List.suffix_iff_eq_drop.mp h).symm
  rw [hdrop]
  rcases firstLength_cases p (fun n => bs.drop (bs.length - n)) longest bs.length with
    ⟨n, hn, hle, hmatch, hbest⟩ | ⟨hzero, hnone⟩
  · rw [hn]
    refine .inl ⟨_, List.take_append_drop (bs.length - n) bs, hmatch, fun other h hother => ?_⟩
    rw [List.length_drop, Nat.sub_sub_self hle]
    exact hbest _ h.length_le (by rwa [hend h])
  · rw [hzero]
    exact .inr ⟨List.take_length, fun other h hother => hnone _ h.length_le (by rwa [hend h])⟩

end CallAtlas.Shell.Pattern
