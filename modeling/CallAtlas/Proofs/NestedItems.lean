import CallAtlas.Catalog.Resolution
import CallAtlas.Code.Outline

/-!
# Items inside bodies

An item may stand as a statement in any body, and bodies stand nearly everywhere : in closures, arms
of a `match`, lengths of arrays in types, arguments and fields. `Stmt.thinList` deletes items from a
body and from all bodies inside it, one by one as a `Choice` of their places says. What is left
mentions the same names in the same order (`Stmt.names_thinList`), since every way from a body to a
part of it leads through statements, and an item adds nothing there. So bodies that are the same but
for the items in them have the same references and the same calls, and the outline of a source does
not change with the items in its bodies.
-/

namespace CallAtlas.Code

/-! ## Deleting items -/

/-- A choice of places in a tree. A place is told by the turns on the way to it. -/
abbrev Choice := List Nat → Bool

/-- The choice in one part of a tree. -/
def Choice.part (d : Choice) (k : Nat) : Choice :=
  fun place => d (k :: place)

/-- Whether a statement is an item. -/
def Stmt.isItem : Stmt → Bool
  | .item _ => true
  | _ => false

mutual

/-- Delete the chosen items from the bodies in an expression. The arguments of a macro stay as
they are. -/
def Expr.thin (d : Choice) : Expr → Expr
  | .literal => .literal
  | .hole => .hole
  | .uninterpreted braced => .uninterpreted braced
  | .path steps => .path steps
  | .attributed values e => .attributed (Expr.thinList (d.part 0) values) (e.thin (d.part 1))
  | .unary op e => .unary op (e.thin (d.part 0))
  | .binary op l r => .binary op (l.thin (d.part 0)) (r.thin (d.part 1))
  | .index e i => .index (e.thin (d.part 0)) (i.thin (d.part 1))
  | .cast e type braced => .cast (e.thin (d.part 0)) (Expr.thinList (d.part 1) type) braced
  | .range lo hi => .range (Expr.thinOption (d.part 0) lo) (Expr.thinOption (d.part 1) hi)
  | .array es => .array (Expr.thinList (d.part 0) es)
  | .tuple es => .tuple (Expr.thinList (d.part 0) es)
  | .repeated e length => .repeated (e.thin (d.part 0)) (length.thin (d.part 1))
  | .call f args => .call (f.thin (d.part 0)) (Expr.thinList (d.part 1) args)
  | .methodCall receiver method args =>
    .methodCall (receiver.thin (d.part 0)) method (Expr.thinList (d.part 1) args)
  | .struct name fields base =>
    .struct name (Expr.thinList (d.part 0) fields) (Expr.thinOption (d.part 1) base)
  | .block kind body => .block kind (Stmt.thinList (d.part 0) body)
  | .conditional cond body otherwise =>
    .conditional (cond.thin (d.part 0)) (Stmt.thinList (d.part 1) body)
      (Expr.thinOption (d.part 2) otherwise)
  | .whileLoop cond body => .whileLoop (cond.thin (d.part 0)) (Stmt.thinList (d.part 1) body)
  | .forLoop pattern e body =>
    .forLoop (Expr.thinList (d.part 0) pattern) (e.thin (d.part 1)) (Stmt.thinList (d.part 2) body)
  | .select e arms => .select (e.thin (d.part 0)) (Arm.thinList (d.part 1) arms)
  | .letCondition pattern e => .letCondition (Expr.thinList (d.part 0) pattern) (e.thin (d.part 1))
  | .closure signature body => .closure (Expr.thinList (d.part 0) signature) (body.thin (d.part 1))
  | .jump kind e => .jump kind (Expr.thinOption (d.part 0) e)
  | .macroCall braced args => .macroCall braced args

/-- Delete the chosen items from expressions. -/
def Expr.thinList (d : Choice) : List Expr → List Expr
  | [] => []
  | e :: es => e.thin (d.part 0) :: Expr.thinList (d.part 1) es

/-- Delete the chosen items from an expression that may be left out. -/
def Expr.thinOption (d : Choice) : Option Expr → Option Expr
  | none => none
  | some e => some (e.thin d)

/-- Delete the chosen items from the arms of a `match`. -/
def Arm.thinList (d : Choice) : List Arm → List Arm
  | [] => []
  | .mk attrs pattern guard body :: arms =>
    .mk (Expr.thinList (d.part 0) attrs) (Expr.thinList (d.part 1) pattern)
      (Expr.thinOption (d.part 2) guard)
      (body.thin (d.part 3)) :: Arm.thinList (d.part 4) arms

/-- Delete the chosen items inside a statement. -/
def Stmt.thin (d : Choice) : Stmt → Stmt
  | .bind attrs pattern init otherwise =>
    .bind (Expr.thinList (d.part 0) attrs) (Expr.thinList (d.part 1) pattern)
      (Expr.thinOption (d.part 2) init)
      (Stmt.thinOption (d.part 3) otherwise)
  | .item i => .item (i.thin (d.part 0))
  | .expr e => .expr (e.thin (d.part 0))
  | .macroCall attrs args => .macroCall (Expr.thinList (d.part 0) attrs) args

/-- Delete the chosen items from a body. -/
def Stmt.thinList (d : Choice) : List Stmt → List Stmt
  | [] => []
  | s :: ss =>
    if s.isItem && d [] then Stmt.thinList (d.part 1) ss
    else s.thin (d.part 0) :: Stmt.thinList (d.part 1) ss

/-- Delete the chosen items from a body that may be left out. -/
def Stmt.thinOption (d : Choice) : Option (List Stmt) → Option (List Stmt)
  | none => none
  | some ss => some (Stmt.thinList d ss)

/-- Delete the chosen items from the bodies of an item. -/
def Item.thin (d : Choice) : Item → Item
  | .function name body => .function name (Stmt.thinList (d.part 0) body)
  | .struct name => .struct name
  | .enum name => .enum name
  | .union name => .union name
  | .trait name members => .trait name (Member.thinList (d.part 0) members)
  | .implementation self members => .implementation self (Member.thinList (d.part 0) members)
  | .module name content => .module name (Item.thinOption (d.part 0) content)
  | .other => .other

/-- Delete the chosen items from the bodies of items. -/
def Item.thinList (d : Choice) : List Item → List Item
  | [] => []
  | i :: is => i.thin (d.part 0) :: Item.thinList (d.part 1) is

/-- Delete the chosen items from the bodies of a module that may be elsewhere. -/
def Item.thinOption (d : Choice) : Option (List Item) → Option (List Item)
  | none => none
  | some is => some (Item.thinList d is)

/-- Delete the chosen items from the bodies of methods. -/
def Member.thinList (d : Choice) : List Member → List Member
  | [] => []
  | .method name body :: ms =>
    .method name (Stmt.thinOption (d.part 0) body) :: Member.thinList (d.part 1) ms
  | .other :: ms => .other :: Member.thinList (d.part 1) ms

end

/-! ## Names -/

/-- Whether the attributes of an expression are not looked at. -/
def Expr.hidesAttrs : Expr → Bool
  | .path .. => true
  | .struct .. => true
  | .methodCall .. => true
  | .uninterpreted _ => true
  | _ => false

theorem Expr.names_attributed (values : List Expr) (e : Expr) :
    (Expr.attributed values e).names =
      (if e.hidesAttrs then [] else Expr.namesList values) ++ e.names := by
  cases e <;> simp [Expr.names, Expr.hidesAttrs]

theorem Expr.hidesAttrs_thin (d : Choice) (e : Expr) : (e.thin d).hidesAttrs = e.hidesAttrs := by
  cases e <;> rfl

theorem Stmt.names_of_isItem {s : Stmt} (h : s.isItem = true) : s.names = [] := by
  cases s with
  | item i => rw [Stmt.names]
  | bind | expr | macroCall => cases h

-- One case for each form. In a body the choice decides about each statement that is an item.
mutual

theorem Expr.names_thin (d : Choice) : (e : Expr) → (e.thin d).names = e.names
  | .literal | .hole | .uninterpreted _ | .path _ | .macroCall .. => by rw [Expr.thin]
  | .attributed values e => by
    rw [Expr.thin, Expr.names_attributed, Expr.names_attributed, e.hidesAttrs_thin,
      Expr.names_thinList, e.names_thin]
  | .unary _ e => by rw [Expr.thin, Expr.names, Expr.names, e.names_thin]
  | .binary _ l r => by rw [Expr.thin, Expr.names, Expr.names, l.names_thin, r.names_thin]
  | .index e i => by rw [Expr.thin, Expr.names, Expr.names, e.names_thin, i.names_thin]
  | .cast e type _ => by rw [Expr.thin, Expr.names, Expr.names, e.names_thin, Expr.names_thinList]
  | .range lo hi => by
    rw [Expr.thin, Expr.names, Expr.names, Expr.names_thinOption, Expr.names_thinOption]
  | .array es | .tuple es => by rw [Expr.thin, Expr.names, Expr.names, Expr.names_thinList]
  | .repeated e length => by rw [Expr.thin, Expr.names, Expr.names, e.names_thin, length.names_thin]
  | .call f args => by rw [Expr.thin, Expr.names, Expr.names, f.names_thin, Expr.names_thinList]
  | .methodCall receiver _ args => by
    rw [Expr.thin, Expr.names, Expr.names, receiver.names_thin, Expr.names_thinList]
  | .struct _ fields base => by
    rw [Expr.thin, Expr.names, Expr.names, Expr.names_thinList, Expr.names_thinOption]
  | .block _ body => by rw [Expr.thin, Expr.names, Expr.names, Stmt.names_thinList]
  | .conditional cond body otherwise => by
    rw [Expr.thin, Expr.names, Expr.names, cond.names_thin, Stmt.names_thinList,
      Expr.names_thinOption]
  | .whileLoop cond body => by
    rw [Expr.thin, Expr.names, Expr.names, cond.names_thin, Stmt.names_thinList]
  | .forLoop pattern e body => by
    rw [Expr.thin, Expr.names, Expr.names, Expr.names_thinList, e.names_thin, Stmt.names_thinList]
  | .select e arms => by rw [Expr.thin, Expr.names, Expr.names, e.names_thin, Arm.names_thinList]
  | .letCondition pattern e => by
    rw [Expr.thin, Expr.names, Expr.names, Expr.names_thinList, e.names_thin]
  | .closure signature body => by
    rw [Expr.thin, Expr.names, Expr.names, Expr.names_thinList, body.names_thin]
  | .jump _ e => by rw [Expr.thin, Expr.names, Expr.names, Expr.names_thinOption]

theorem Expr.names_thinList (d : Choice) : (es : List Expr) →
    Expr.namesList (Expr.thinList d es) = Expr.namesList es
  | [] => by rw [Expr.thinList]
  | e :: es => by
    rw [Expr.thinList, Expr.namesList, Expr.namesList, e.names_thin, Expr.names_thinList _ es]

theorem Expr.names_thinOption (d : Choice) : (e : Option Expr) →
    Expr.namesOption (Expr.thinOption d e) = Expr.namesOption e
  | none => by rw [Expr.thinOption]
  | some e => by rw [Expr.thinOption, Expr.namesOption, Expr.namesOption, e.names_thin]

theorem Arm.names_thinList (d : Choice) : (arms : List Arm) →
    Arm.namesList (Arm.thinList d arms) = Arm.namesList arms
  | [] => by rw [Arm.thinList]
  | .mk attrs pattern guard body :: arms => by
    rw [Arm.thinList, Arm.namesList, Arm.namesList, Expr.names_thinList, Expr.names_thinList,
      Expr.names_thinOption, body.names_thin, Arm.names_thinList _ arms]

theorem Stmt.names_thin (d : Choice) : (s : Stmt) → (s.thin d).names = s.names
  | .bind attrs pattern init otherwise => by
    rw [Stmt.thin, Stmt.names, Stmt.names, Expr.names_thinList, Expr.names_thinList,
      Expr.names_thinOption, Stmt.names_thinOption]
  | .item _ => by rw [Stmt.thin, Stmt.names, Stmt.names]
  | .expr e => by rw [Stmt.thin, Stmt.names, Stmt.names, e.names_thin]
  | .macroCall attrs _ => by rw [Stmt.thin, Stmt.names, Stmt.names, Expr.names_thinList]

theorem Stmt.names_thinList (d : Choice) : (ss : List Stmt) →
    Stmt.namesList (Stmt.thinList d ss) = Stmt.namesList ss
  | [] => by rw [Stmt.thinList]
  | s :: ss => by
    have ih := Stmt.names_thinList (d.part 1) ss
    rw [Stmt.thinList, Stmt.namesList]
    split
    · rename_i hitem
      rw [Stmt.names_of_isItem (Bool.and_eq_true_iff.mp hitem).1, ih, List.nil_append]
    · rw [Stmt.namesList, s.names_thin, ih]

theorem Stmt.names_thinOption (d : Choice) : (ss : Option (List Stmt)) →
    Stmt.namesOption (Stmt.thinOption d ss) = Stmt.namesOption ss
  | none => by rw [Stmt.thinOption]
  | some ss => by rw [Stmt.thinOption, Stmt.namesOption, Stmt.namesOption, Stmt.names_thinList]

end

/-- Bodies that are the same but for the items in them : with some items deleted from both, the same
is left. -/
def SameButItems (a b : List Stmt) : Prop :=
  ∃ d d', Stmt.thinList d a = Stmt.thinList d' b

/-- Bodies that are the same but for the items in them mention the same names. -/
theorem SameButItems.references_eq {a b : List Stmt} (h : SameButItems a b) :
    references a = references b := by
  obtain ⟨d, d', hsame⟩ := h
  calc references a = Stmt.namesList (Stmt.thinList d a) := (Stmt.names_thinList d a).symm
    _ = Stmt.namesList (Stmt.thinList d' b) := by rw [hsame]
    _ = references b := Stmt.names_thinList d' b

/-! ## Outlines -/

theorem symbolIn_thinOption (scope name : String) (d : Choice) (body : Option (List Stmt)) :
    symbolIn scope name (Stmt.thinOption d body) = symbolIn scope name body := by
  cases body with
  | none => rw [Stmt.thinOption]
  | some ss =>
    rw [Stmt.thinOption, symbolIn, symbolIn, Option.map_some, Option.map_some,
      references, references, Stmt.names_thinList]

/-- Of methods a class takes their names and references only. -/
theorem foldl_addMember_thinList (classScope : String) (slot : Nat) (d : Choice) :
    (ms : List Member) →
    (o : Outline) → (Member.thinList d ms).foldl (Outline.addMember classScope slot) o =
      ms.foldl (Outline.addMember classScope slot) o
  | [], _ => by rw [Member.thinList]
  | .method name body :: ms, o => by
    rw [Member.thinList, List.foldl_cons, List.foldl_cons, foldl_addMember_thinList _ _ _ ms,
      Outline.addMember, Outline.addMember, symbolIn_thinOption]
  | .other :: ms, o => by
    rw [Member.thinList, List.foldl_cons, List.foldl_cons, foldl_addMember_thinList _ _ _ ms]

theorem addToClass_thinList (o : Outline) (scope className : String) (d : Choice)
    (ms : List Member) :
    o.addToClass scope className (Member.thinList d ms) = o.addToClass scope className ms :=
  foldl_addMember_thinList (scope ++ "." ++ className) _ d ms _

mutual

theorem declareItem_thin (scope : String) (o : Outline) (d : Choice) : (i : Item) →
    declareItem scope o (i.thin d) = declareItem scope o i
  | .function name body => by
    have hsymbol := symbolIn_thinOption scope name (d.part 0) (some body)
    rw [Stmt.thinOption] at hsymbol
    rw [Item.thin, declareItem, declareItem, hsymbol]
  | .struct _ | .enum _ | .union _ | .other => by rw [Item.thin]
  | .trait name members => by rw [Item.thin, declareItem, declareItem, addToClass_thinList]
  | .implementation (.path segments) members => by
    rw [Item.thin, declareItem, declareItem]
    simp only [addToClass_thinList]
  | .implementation .other _ => by rw [Item.thin, declareItem, declareItem]
  | .module name (some content) => by
    rw [Item.thin, Item.thinOption, declareItem, declareItem, declareAll_thinList _ _ _ content]
  | .module _ none => by rw [Item.thin, Item.thinOption]

theorem declareAll_thinList (scope : String) (o : Outline) (d : Choice) : (is : List Item) →
    declareAll scope o (Item.thinList d is) = declareAll scope o is
  | [] => by rw [Item.thinList]
  | i :: is => by
    rw [Item.thinList, declareAll, declareAll, declareItem_thin _ _ _ i,
      declareAll_thinList _ _ _ is]

end

/-- **Items inside bodies do not leak.** Whatever items are deleted from a body and from the bodies
inside it, at any depth, what is left mentions the same names. So bodies that are the same but for
their items have the same references, and resolving these in a catalog writes the same calls. The
outline of a source stays as it is when items are deleted from its bodies. -/
theorem references_ignore_items :
    (∀ (d : Choice) (body : List Stmt), references (Stmt.thinList d body) = references body) ∧
    (∀ a b : List Stmt, SameButItems a b → references a = references b ∧
      ∀ (c : Catalog) (caller fileId : Nat) (o : ResolveOptions),
        c.addCallsOf caller fileId (references a) o = c.addCallsOf caller fileId (references b) o) ∧
    ∀ (d : Choice) (scope : String) (items : List Item),
      declareItems scope (Item.thinList d items) = declareItems scope items := by
  refine ⟨Stmt.names_thinList, fun a b h => ⟨h.references_eq, fun c caller fileId o => ?_⟩,
    fun d scope items => congrArg Outline.nodes (declareAll_thinList scope {} d items)⟩
  rw [h.references_eq]

/-- A body with a function before its call, and an item in a closure that is an argument of
the call. -/
def bodyWithHelper : List Stmt := [
  .item (.function "helper" [.expr (.path ["ignored"])]),
  .expr (.call (.path ["run"]) [.closure [] (.block .plain [.item .other, .expr (.path ["x"])])])]

/-- The same call, with a type in the closure. -/
def bodyWithType : List Stmt := [
  .expr (.call (.path ["run"])
    [.closure [] (.block .plain [.expr (.path ["x"]), .item (.struct "T")])])]

theorem references_ignore_items_helper :
    SameButItems bodyWithHelper bodyWithType ∧
    references bodyWithHelper = ["run", "x"] ∧ references bodyWithType = ["run", "x"] := by
  have hsame : SameButItems bodyWithHelper bodyWithType := ⟨fun _ => true, fun _ => true, rfl⟩
  have hnames : references bodyWithHelper = ["run", "x"] := by decide
  exact ⟨hsame, hnames, (references_ignore_items.2.1 _ _ hsame).1.symm.trans hnames⟩

end CallAtlas.Code
