import CallAtlas.Shell.Expansion

/-!
# Fields of words

Dividing what was filled in into fields loses the dividers and nothing else
(`Expansion.flatten_divide`). Glyphs that do not divide make one field, and divisions between such
fields give them back (`Expansion.divide_intercalate`). What is quoted stands for no path but its
own text (`Expansion.paths_of_isQuoted`).

So what stands in quotes is one field : a text, the output of a command, the value of a parameter
(`Expansion.fields_quoted`, `Expansion.fields_output`, `Expansion.fields_parameter`). All arguments
in quotes are the arguments again, whatever blanks and stars are in them
(`Expansion.fields_allArguments`).
-/

namespace CallAtlas.Shell.Expansion

/-! ## What dividing keeps -/

/-- A glyph that ends a field and is no part of one. -/
def Glyph.isDivider (dividers : List Char) : Glyph → Bool
  | .division => true
  | .quote => false
  | .char c _ divides => divides && dividers.contains c

namespace Division

variable (dividers : List Char)

/-- The glyphs that are in fields, in order. -/
def glyphs (d : Division) : List Glyph :=
  (d.done.map List.reverse).reverse.flatten ++ (d.current.getD []).reverse

theorem glyphs_finish (d : Division) : d.finish.glyphs = d.glyphs := by
  cases hcurrent : d.current <;> simp [finish, glyphs, hcurrent]

/-- A glyph that divides is lost, and every other one is added. -/
theorem glyphs_step (d : Division) (g : Glyph) :
    (d.step dividers g).glyphs = d.glyphs ++ [g].filter (!·.isDivider dividers) := by
  cases g with
  | division => simp [step, glyphs_finish, Glyph.isDivider]
  | quote => simp [step, glyphs, Glyph.isDivider]
  | char c quoted divides =>
    by_cases hdivides : (divides && dividers.contains c) = true
    · have hlost : [Glyph.char c quoted divides].filter (!·.isDivider dividers) = [] := by
        simpa [Glyph.isDivider] using hdivides
      rw [hlost, List.append_nil, step, if_pos hdivides]
      split
      · exact glyphs_finish d
      · dsimp only
        split
        · rfl
        · split <;> simp [glyphs]
    · have hkept : [Glyph.char c quoted divides].filter (!·.isDivider dividers) =
          [.char c quoted divides] := by
        simpa [Glyph.isDivider] using hdivides
      rw [hkept, step, if_neg hdivides]
      simp [glyphs]

theorem glyphs_foldl (d : Division) (gs : List Glyph) :
    (gs.foldl (step dividers) d).glyphs = d.glyphs ++ gs.filter (!·.isDivider dividers) := by
  induction gs generalizing d with
  | nil => simp
  | cons g gs ih =>
    rw [List.foldl_cons, ih, glyphs_step, List.append_assoc, ← List.filter_append]
    rfl

theorem current_finish (d : Division) : d.finish.current = none := by
  cases hcurrent : d.current <;> simp [finish, hcurrent]

end Division

/-- **Dividing loses the dividers and nothing else.** -/
theorem flatten_divide (dividers : List Char) (gs : List Glyph) :
    (divide dividers gs).flatten = gs.filter (!·.isDivider dividers) := by
  have hkeep := Division.glyphs_foldl dividers {} gs
  rw [← Division.glyphs_finish] at hkeep
  simpa [Division.glyphs, Division.current_finish, divide] using hkeep

/-! ## One field after another -/

variable {dividers : List Char}

theorem step_of_not_isDivider (d : Division) {g : Glyph} (h : g.isDivider dividers = false) :
    d.step dividers g =
      { d with current := some (g :: d.current.getD []), afterBlank := false } := by
  cases g with
  | division => simp [Glyph.isDivider] at h
  | quote => rfl
  | char c quoted divides =>
    rw [Division.step, if_neg (by simpa [Glyph.isDivider] using h)]

/-- Glyphs that do not divide go to the current field. -/
theorem foldl_step_of_not_isDivider (d : Division) {gs : List Glyph} (hne : gs ≠ [])
    (h : ∀ g ∈ gs, g.isDivider dividers = false) :
    gs.foldl (Division.step dividers) d =
      { d with current := some (gs.reverse ++ d.current.getD []), afterBlank := false } := by
  induction gs generalizing d with
  | nil => exact absurd rfl hne
  | cons g gs ih =>
    rw [List.foldl_cons, step_of_not_isDivider d (h g List.mem_cons_self)]
    by_cases hgs : gs = []
    · simp [hgs]
    · rw [ih _ hgs fun g hg => h g (List.mem_cons_of_mem _ hg)]
      simp

/-- A field : it has a glyph, and none that divides. -/
def IsField (dividers : List Char) (gs : List Glyph) : Prop :=
  gs ≠ [] ∧ ∀ g ∈ gs, g.isDivider dividers = false

theorem done_foldl_intercalate {fields : List (List Glyph)} (h : ∀ f ∈ fields, IsField dividers f)
    {d : Division} (hd : d.current = none) :
    (([Glyph.division].intercalate fields).foldl (Division.step dividers) d).finish.done =
      (fields.map List.reverse).reverse ++ d.done := by
  -- between two fields nothing is current
  induction fields generalizing d with
  | nil => simp [Division.finish, hd]
  | cons f fields ih =>
    obtain ⟨hne, hkeep⟩ := h f List.mem_cons_self
    have hrest : ∀ f ∈ fields, IsField dividers f := fun f hf => h f (List.mem_cons_of_mem _ hf)
    cases fields with
    | nil => simp [foldl_step_of_not_isDivider d hne hkeep, Division.finish, hd]
    | cons next fields =>
      rw [List.intercalate_cons_cons, List.append_assoc, List.foldl_append,
        foldl_step_of_not_isDivider d hne hkeep, List.singleton_append, List.foldl_cons,
        ih hrest rfl]
      simp [Division.step, Division.finish, hd]

/-- **Divisions between fields give the fields back.** -/
theorem divide_intercalate {fields : List (List Glyph)} (h : ∀ f ∈ fields, IsField dividers f) :
    divide dividers ([Glyph.division].intercalate fields) = fields := by
  rw [divide, done_foldl_intercalate h rfl]
  simp [Function.comp_def]

/-! ## What is quoted -/

/-- A glyph of quotes. It neither divides nor opens a pattern. -/
def Glyph.IsQuoted : Glyph → Prop
  | .division => False
  | .quote => True
  | .char _ quoted divides => quoted = true ∧ divides = false

theorem Glyph.IsQuoted.not_isDivider {g : Glyph} (h : g.IsQuoted) :
    g.isDivider dividers = false := by
  cases g with
  | division => exact h.elim
  | quote => rfl
  | char c quoted divides => simp [isDivider, h.2]

/-- What is quoted opens no pattern. -/
theorem not_isOpen_markedOf {gs : List Glyph} (h : ∀ g ∈ gs, g.IsQuoted) :
    Pattern.isOpen (markedOf gs) = false := by
  rw [Pattern.isOpen, List.any_eq_false]
  rintro ⟨b, quoted⟩ hb
  obtain ⟨g, hg, hb⟩ := List.mem_flatMap.mp hb
  have hquoted := h g hg
  cases g with
  | division => exact hquoted.elim
  | quote => simp at hb
  | char c q divides =>
    obtain ⟨rfl, -⟩ := hquoted
    obtain ⟨b', -, hb'⟩ := List.mem_map.mp hb
    simp [← (Prod.mk.inj hb').2]

/-- What is quoted stands for its own text, whatever files there are. -/
theorem paths_of_isQuoted (fs : FileSystem) {gs : List Glyph} (h : ∀ g ∈ gs, g.IsQuoted) :
    paths fs gs = [textOf gs] := by
  simp [paths, not_isOpen_markedOf h]

/-- The glyphs of a text in quotes. -/
def quotedGlyphs (s : String) : List Glyph :=
  .quote :: glyphs true false s

theorem isQuoted_of_mem_quotedGlyphs {s : String} {g : Glyph} (h : g ∈ quotedGlyphs s) :
    g.IsQuoted := by
  rcases List.mem_cons.mp h with rfl | h
  · exact trivial
  · obtain ⟨c, -, rfl⟩ := List.mem_map.mp h
    exact ⟨rfl, rfl⟩

theorem isField_quotedGlyphs (s : String) : IsField dividers (quotedGlyphs s) :=
  ⟨List.cons_ne_nil _ _, fun _ hg => (isQuoted_of_mem_quotedGlyphs hg).not_isDivider⟩

theorem textOf_quotedGlyphs (s : String) : textOf (quotedGlyphs s) = s := by
  simp [textOf, quotedGlyphs, glyphs, Function.comp_def]

end CallAtlas.Shell.Expansion

namespace CallAtlas.Shell

/-! ## Words in quotes -/

/-- An effect gives a value from one state, and leaves another. -/
def Effect.Gives {α : Type} (x : Effect α) (s : State) (a : α) (s' : State) : Prop :=
  x.run.run s = (.ok a, s')

namespace Effect

variable {α β : Type} {s s' s'' : State}

theorem gives_pure (a : α) : (pure a : Effect α).Gives s a s :=
  rfl

theorem gives_get : (get : Effect State).Gives s s s :=
  rfl

theorem Gives.bind {x : Effect α} {f : α → Effect β} {a : α} {b : β} (hx : x.Gives s a s')
    (hf : (f a).Gives s' b s'') : (x >>= f).Gives s b s'' := by
  rw [Gives] at hx hf ⊢
  simp only [ExceptT.run_bind, StateT.run_bind, hx]
  exact hf

end Effect

namespace Expansion

open Effect

variable {output : Command → Effect String} {s s' : State}

theorem gives_separators (s : State) : ∃ dividers, separators.Gives s dividers s :=
  ⟨_, rfl⟩

theorem gives_hasOption (c : Char) : (hasOption c).Gives s (s.options.contains c) s :=
  rfl

theorem gives_pieces {inner : Bool} {p : Piece} {gs : List Glyph}
    (h : (piece output inner p).Gives s gs s') : (pieces output inner [p]).Gives s gs s' := by
  rw [pieces]
  refine h.bind ((gives_pure []).bind ?_)
  rw [List.append_nil]
  exact gives_pure gs

/-- If a piece gives texts in quotes, then these are the fields of the word. -/
theorem gives_fields {p : Piece} {texts : List String} (hhome : (withHome [p]).Gives s [p] s)
    (h : (piece output false p).Gives s
      ([Glyph.division].intercalate (texts.map quotedGlyphs)) s') :
    (fields output [p]).Gives s texts s' := by
  obtain ⟨dividers, hdividers⟩ := gives_separators s'
  have hdivide : divide dividers.toList ([Glyph.division].intercalate (texts.map quotedGlyphs)) =
      texts.map quotedGlyphs := by
    refine divide_intercalate fun f hf => ?_
    obtain ⟨t, -, rfl⟩ := List.mem_map.mp hf
    exact isField_quotedGlyphs t
  refine hhome.bind ((gives_pieces h).bind (hdividers.bind ((gives_hasOption 'f').bind ?_)))
  have htexts : (texts.map quotedGlyphs).map textOf = texts := by
    simp [Function.comp_def, textOf_quotedGlyphs]
  have hpaths (fs : FileSystem) : (texts.map quotedGlyphs).flatMap (paths fs) = texts := by
    simp [List.flatMap_map, paths_of_isQuoted fs fun _ hg => isQuoted_of_mem_quotedGlyphs hg,
      textOf_quotedGlyphs]
  rw [hdivide]
  split
  · rw [htexts]
    exact gives_pure texts
  · refine gives_get.bind ?_
    dsimp only
    rw [hpaths]
    exact gives_pure texts

theorem gives_field {p : Piece} {text : String} (hhome : (withHome [p]).Gives s [p] s)
    (h : (piece output false p).Gives s (quotedGlyphs text) s') :
    (fields output [p]).Gives s [text] s' :=
  gives_fields hhome (by simpa using h)

/-- **A quoted text is one field.** -/
theorem fields_quoted (text : String) : (fields output [.quoted text]).Gives s [text] s := by
  refine gives_field rfl ?_
  rw [piece]
  exact gives_pure _

/-- **The output of a command in quotes is one field.** -/
theorem fields_output {c : Command} {text : String} (h : (output c).Gives s text s') :
    (fields output [.output c true]).Gives s [text] s' := by
  refine gives_field rfl ?_
  rw [piece]
  exact h.bind (gives_pure _)

/-- **The value of a parameter in quotes is one field.** -/
theorem fields_parameter {name value : String} (word : Word) (hname : name ≠ "@" ∧ name ≠ "*")
    (h : (parameter name).Gives s (some value) s) :
    (fields output [.parameter name .plain true word]).Gives s [value] s := by
  have hall : (name == "@" || name == "*") = false := by simp [hname]
  refine gives_field rfl ?_
  rw [piece]
  refine h.bind ?_
  dsimp only
  rw [hall]
  exact gives_pure _

/-- **All arguments in quotes are the arguments**, whatever characters are in them. -/
theorem fields_allArguments (word : Word) :
    (fields output [.parameter "@" .plain true word]).Gives s s.arguments s := by
  refine gives_fields rfl ?_
  rw [piece]
  exact gives_pure _

end Expansion

end CallAtlas.Shell
