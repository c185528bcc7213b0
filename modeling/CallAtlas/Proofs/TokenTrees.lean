import CallAtlas.Code.Grammar.Basic

/-!
# Token trees and their readers

Lexemes spell token trees if their brackets match (`Code.Spells`). Matching the brackets with a
stack finds the trees that are spelled and no others, and fails just where nothing is spelled
(`Code.Lexeme.nest_eq_some_iff`).

A loop over tokens has a bound on its rounds. If each round takes a token then the bound is never
reached (`Code.Reader.loop_eq`), and items are read one after another (`Code.Reader.many_eq`). So
attributes are read however many there are, whatever the rest of the grammar is
(`Code.Grammar.outerAttrs_flatMap`).
-/

namespace CallAtlas.Code

/-! ## Matching brackets -/

/-- Lexemes spell token trees : what stands between matching brackets is a group. -/
inductive Spells : List Lexeme → List Token → Prop where
  | nil : Spells [] []
  | token (t : Token) {ls : List Lexeme} {ts : List Token} :
    Spells ls ts → Spells (.token t :: ls) (t :: ts)
  | group (d : Delimiter) {inner ls : List Lexeme} {content ts : List Token} :
    Spells inner content → Spells ls ts →
    Spells (.opening d :: (inner ++ .closing d :: ls)) (.group d content :: ts)

theorem Spells.append {ks ls : List Lexeme} {us ts : List Token} (hk : Spells ks us)
    (hl : Spells ls ts) : Spells (ks ++ ls) (us ++ ts) := by
  induction hk with
  | nil => exact hl
  | token t _ ih => exact .token t ih
  | group d hinner _ _ ih =>
    rw [List.cons_append, List.append_assoc]
    exact .group d hinner ih

namespace Lexeme

/-- What is spelled is added to the finished tokens. -/
theorem nest_append {ls : List Lexeme} {ts : List Token} (h : Spells ls ts) (rest : List Lexeme)
    (done : List Token) (outer : List (Delimiter × List Token)) :
    nest (ls ++ rest) done outer = nest rest (ts.reverse ++ done) outer := by
  induction h generalizing rest done outer with
  | nil => rfl
  | token t _ ih =>
    rw [List.cons_append, nest, ih, List.reverse_cons, List.append_assoc]
    rfl
  | @group d inner ls content ts _ _ ihinner ihls =>
    have hclose : nest (.closing d :: (ls ++ rest)) (content.reverse ++ []) ((d, done) :: outer) =
        nest (ls ++ rest) (.group d content :: done) outer := by
      rw [nest, if_pos rfl, List.append_nil, List.reverse_reverse]
    rw [List.cons_append, nest, List.append_assoc, List.cons_append, ihinner, hclose, ihls,
      List.reverse_cons, List.append_assoc]
    rfl

/-- The lexemes close the open groups one after another, and give `result` in the end. -/
def Closes (result : List Token) : List Lexeme → (done : List Token) →
    (outer : List (Delimiter × List Token)) → Prop
  | ls, done, [] => ∃ ts, Spells ls ts ∧ done.reverse ++ ts = result
  | ls, done, (d, before) :: outer => ∃ inner ts rest, Spells inner ts ∧
      inner ++ .closing d :: rest = ls ∧
      Closes result rest (.group d (done.reverse ++ ts) :: before) outer

theorem Closes.append {result : List Token} {ks ls : List Lexeme} {us done : List Token}
    {outer : List (Delimiter × List Token)} (hk : Spells ks us)
    (h : Closes result ls (us.reverse ++ done) outer) : Closes result (ks ++ ls) done outer := by
  cases outer with
  | nil =>
    obtain ⟨ts, hts, hresult⟩ := h
    exact ⟨us ++ ts, hk.append hts, by simpa using hresult⟩
  | cons frame outer =>
    obtain ⟨inner, ts, rest, hts, hrest, hcloses⟩ := h
    exact ⟨ks ++ inner, us ++ ts, rest, hk.append hts, by simp [hrest], by simpa using hcloses⟩

theorem closes_of_nest {ls : List Lexeme} {done result : List Token}
    {outer : List (Delimiter × List Token)} (h : nest ls done outer = some result) :
    Closes result ls done outer := by
  fun_induction nest ls done outer with
  | case1 done => exact ⟨[], .nil, by simpa using h⟩
  | case2 => simp at h
  | case3 t rest done outer ih =>
    have ht : Spells [.token t] [t] := .token t .nil
    exact .append ht (ih h)
  | case4 d rest done outer ih =>
    -- the new group is closed first, and what comes after it closes the groups around it
    obtain ⟨inner, ts, rest, hts, rfl, hcloses⟩ := ih h
    have hgroup : Spells (.opening d :: (inner ++ [.closing d])) [.group d ts] := .group d hts .nil
    simpa using Closes.append hgroup hcloses
  | case5 => simp at h
  | case6 rest done d before outer ih => exact ⟨[], [], rest, .nil, rfl, by simpa using ih h⟩
  | case7 => simp at h

/-- **Brackets are matched just where they match.** -/
theorem nest_eq_some_iff {ls : List Lexeme} {ts : List Token} :
    nest ls [] [] = some ts ↔ Spells ls ts := by
  constructor
  · intro h
    obtain ⟨us, hus, rfl⟩ := closes_of_nest h
    exact hus
  · intro h
    have hnest := nest_append h [] [] []
    rw [List.append_nil, List.append_nil] at hnest
    rw [hnest, nest, List.reverse_reverse]

end Lexeme

namespace Reader

variable {α β σ : Type}

/-! ## What readers take -/

@[simp] theorem pure_apply (a : α) (ts : List Token) : (pure a : Reader α) ts = some (a, ts) :=
  rfl

@[simp] theorem get_apply (ts : List Token) : (get : Reader (List Token)) ts = some (ts, ts) :=
  rfl

@[simp] theorem set_apply (us ts : List Token) : (set us : Reader Unit) ts = some ((), us) :=
  rfl

@[simp] theorem failure_apply (ts : List Token) : (failure : Reader α) ts = none :=
  rfl

@[simp] theorem bind_apply (r : Reader α) (f : α → Reader β) (ts : List Token) :
    (r >>= f) ts = (r ts).bind fun p => f p.1 p.2 := by
  cases hr : r ts <;> simp [bind, StateT.bind, hr]

@[simp] theorem map_apply (f : α → β) (r : Reader α) (ts : List Token) :
    (f <$> r) ts = (r ts).map (Prod.map f id) := by
  rw [← bind_pure_comp, bind_apply]
  cases r ts <;> rfl

/-- A reader takes at least one token if it takes any value. -/
def Advances (r : Reader α) : Prop :=
  ∀ ⦃ts a rest⦄, r ts = some (a, rest) → rest.length < ts.length

theorem Advances.bind {r : Reader α} {f : α → Reader β} (hr : Advances r)
    (hf : ∀ a, Advances (f a)) : Advances (r >>= f) := by
  intro ts b rest h
  rw [bind_apply] at h
  obtain ⟨p, hp, hb⟩ := Option.bind_eq_some_iff.mp h
  exact Nat.lt_trans (hf p.1 hb) (hr hp)

theorem punct_apply (p : String) (ts : List Token) :
    punct p ts = if atPunct p ts then some ((), ts.drop p.length) else none := by
  cases hat : atPunct p ts <;> simp [punct, require, hat]

theorem advances_punct {p : String} (hp : p.length ≠ 0) : Advances (punct p) := by
  intro ts _ rest h
  rw [punct_apply] at h
  split at h
  case isFalse => simp at h
  case isTrue hat =>
    obtain ⟨-, rfl⟩ := Prod.mk.inj (Option.some.inj h)
    cases ts with
    | nil =>
      rw [atPunct] at hat
      cases hmarks : p.toList with
      | nil => simp_all
      | cons c cs => simp [hmarks, atMarks] at hat
    | cons t ts =>
      rw [List.length_drop]
      simp only [List.length_cons]
      omega

theorem inside_group (d : Delimiter) (r : Reader α) (content ts : List Token) :
    inside d r (.group d content :: ts) = (whole r content).map fun a => (a, ts) := by
  cases hwhole : whole r content <;> simp [inside, group, require, hwhole]

theorem eq_of_group_eq_some {d : Delimiter} {ts content rest : List Token}
    (h : group d ts = some (content, rest)) : ts = .group d content :: rest := by
  cases ts with
  | nil => simp [group] at h
  | cons t ts =>
    cases t with
    | group e inner => by_cases he : d = e <;> simp_all [group, require]
    | _ => simp [group] at h

theorem advances_inside (d : Delimiter) (r : Reader α) : Advances (inside d r) := by
  intro ts a rest h
  rw [inside, bind_apply] at h
  obtain ⟨⟨content, rest'⟩, hgroup, hwhole⟩ := Option.bind_eq_some_iff.mp h
  rw [eq_of_group_eq_some hgroup]
  cases hr : whole r content <;> simp_all

/-! ## Rounds of a loop -/

variable {step : σ → Reader (σ ⊕ β)}

/-- Every round that goes on has taken a token. -/
def RoundsAdvance (step : σ → Reader (σ ⊕ β)) : Prop :=
  ∀ ⦃s ts s' rest⦄, step s ts = some (.inl s', rest) → rest.length < ts.length

theorem rounds_succ_apply (n : Nat) (s : σ) (ts : List Token) :
    rounds step (n + 1) s ts = (step s ts).bind fun p =>
      p.1.elim (fun s' => rounds step n s' p.2) fun b => some (b, p.2) := by
  rw [rounds, bind_apply]
  cases hstep : step s ts with
  | none => rfl
  | some p => obtain ⟨s' | b, rest⟩ := p <;> rfl

/-- More rounds than there are tokens make no difference. -/
theorem rounds_eq (h : RoundsAdvance step) {n m : Nat} {s : σ} {ts : List Token}
    (hn : ts.length < n) (hm : ts.length < m) : rounds step n s ts = rounds step m s ts := by
  induction n generalizing m s ts with
  | zero => omega
  | succ n ih =>
    obtain ⟨m, rfl⟩ : ∃ k, m = k + 1 := ⟨m - 1, by omega⟩
    rw [rounds_succ_apply, rounds_succ_apply]
    cases hstep : step s ts with
    | none => rfl
    | some p =>
      obtain ⟨s' | b, rest⟩ := p
      · have hrest := h hstep
        show rounds step n s' rest = rounds step m s' rest
        exact ih (by omega) (by omega)
      · rfl

/-- **The bound of a loop is never reached** : a loop whose rounds take tokens goes on after a round
as it began. -/
theorem loop_eq (h : RoundsAdvance step) (s : σ) (ts : List Token) :
    loop step s ts = (step s ts).bind fun p =>
      p.1.elim (fun s' => loop step s' p.2) fun b => some (b, p.2) := by
  rw [loop, rounds_succ_apply]
  cases hstep : step s ts with
  | none => rfl
  | some p =>
    obtain ⟨s' | b, rest⟩ := p
    · have hrest := h hstep
      show rounds step (ts.length + 1) s' rest = rounds step (rest.length + 2) s' rest
      exact rounds_eq h (by omega) (by omega)
    · rfl

/-! ## Items one after another -/

section Many

variable {more : List Token → Bool} {r : Reader α}

theorem many_step_apply (acc : List α) (ts : List Token) :
    many.step more r acc ts =
      if more ts then (r ts).map fun p => (.inl (acc ++ [p.1]), p.2) else some (.inr acc, ts) := by
  cases hmore : more ts with
  | true => cases hr : r ts <;> simp [many.step, hmore, hr, Prod.map]
  | false => simp [many.step, hmore]

theorem roundsAdvance_many_step (h : Advances r) : RoundsAdvance (many.step more r) := by
  intro acc ts acc' rest hstep
  rw [many_step_apply] at hstep
  split at hstep
  · obtain ⟨⟨a, rest'⟩, hr, hp⟩ := Option.map_eq_some_iff.mp hstep
    obtain ⟨-, rfl⟩ := Prod.mk.inj hp
    exact h hr
  · simp at hstep

theorem loop_many_step (h : Advances r) (acc : List α) (ts : List Token) :
    loop (many.step more r) acc ts =
      if more ts then (r ts).bind fun p => loop (many.step more r) (acc ++ [p.1]) p.2
      else some (acc, ts) := by
  rw [loop_eq (roundsAdvance_many_step h), many_step_apply]
  split
  · cases r ts <;> rfl
  · rfl

/-- What was read before stands in front of what is read. -/
theorem loop_many_step_append (h : Advances r) (acc : List α) (ts : List Token) :
    loop (many.step more r) acc ts = (many more r ts).map (Prod.map (acc ++ ·) id) := by
  induction hn : ts.length using Nat.strongRecOn generalizing acc ts with
  | ind n ih =>
    have hmany : many more r ts = loop (many.step more r) [] ts := rfl
    rw [hmany, loop_many_step h, loop_many_step h]
    split
    · cases hr : r ts with
      | none => rfl
      | some p =>
        have hrest : p.2.length < n := hn ▸ h hr
        have hread (acc : List α) := ih p.2.length hrest acc p.2 rfl
        simp only [Option.bind_some, hread, Option.map_map]
        congr 1
        funext ⟨as, rest⟩
        simp
    · simp

/-- **Items are read one after another**, until the first place where no more are wanted. -/
theorem many_eq (h : Advances r) (ts : List Token) :
    many more r ts =
      if more ts then (r ts).bind fun p => (many more r p.2).map (Prod.map (p.1 :: ·) id)
      else some ([], ts) := by
  have hmany : many more r ts = loop (many.step more r) [] ts := rfl
  rw [hmany, loop_many_step h]
  simp only [loop_many_step_append h]
  rfl

end Many

end Reader

namespace Grammar

open Reader

variable (g : Grammar)

theorem outerAttrs_eq (ts : List Token) :
    g.outerAttrs ts =
      if atPunct "#" ts then
        (inside .bracket (attrContent g) (ts.drop 1)).bind fun p =>
          (g.outerAttrs p.2).map (Prod.map (p.1 ++ ·) id)
      else some ([], ts) := by
  have hattr : Advances (do punct "#"; inside .bracket (attrContent g)) :=
    (advances_punct (by decide)).bind fun _ => advances_inside _ _
  simp only [outerAttrs, bind_pure_comp, map_apply]
  rw [many_eq hattr, bind_apply, punct_apply]
  split
  · simp only [Option.bind_some, Option.map_bind]
    congr 1
    funext p
    simp only [Function.comp_apply, Option.map_map, Prod.map_comp_map]
    rfl
  · rfl

theorem outerAttrs_attr {content ts : List Token} {joint : Bool} {values : List Expr}
    (h : whole (attrContent g) content = some values) :
    g.outerAttrs (.punct '#' joint :: .group .bracket content :: ts) =
      (g.outerAttrs ts).map (Prod.map (values ++ ·) id) := by
  have hat : atPunct "#" (.punct '#' joint :: .group .bracket content :: ts) := by
    simp [atPunct, atMarks]
  rw [outerAttrs_eq, if_pos hat, List.drop_succ_cons, List.drop_zero, inside_group, h]
  rfl

/-- **Attributes are read one after another**, however many stand in front of something. -/
theorem outerAttrs_flatMap {attrs : List (List Token × List Expr)} {rest : List Token}
    (h : ∀ a ∈ attrs, whole (attrContent g) a.1 = some a.2) (hrest : ¬atPunct "#" rest) :
    g.outerAttrs (attrs.flatMap (fun a => [.punct '#' false, .group .bracket a.1]) ++ rest) =
      some (attrs.flatMap (·.2), rest) := by
  induction attrs with
  | nil => rw [List.flatMap_nil, List.nil_append, outerAttrs_eq, if_neg hrest, List.flatMap_nil]
  | cons a attrs ih =>
    have hread := ih fun b hb => h b (List.mem_cons_of_mem _ hb)
    simp only [List.flatMap_cons, List.cons_append, List.nil_append]
    rw [outerAttrs_attr g (h a List.mem_cons_self), hread]
    rfl

end Grammar

end CallAtlas.Code
