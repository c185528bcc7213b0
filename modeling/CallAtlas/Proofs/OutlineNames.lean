import CallAtlas.Code.SourceReader
import CallAtlas.Proofs.DeclaredOrder
import CallAtlas.Proofs.GatheredClasses
import CallAtlas.Proofs.LeftOutSources

/-!
# Dotted names

The dotted name of what a source declares is put together twice : by the outline, for its symbol,
and by the catalog, from the container of its row and its name. `Code.AreSpelled` says of a forest
that its symbols have the dotted names of their places. Each item keeps this, also where methods are
added to a class that is there already, so it holds of every outline (`Code.areSpelled_outline`).

Registering such a forest under its own scope then gives every symbol the row with its name
(`Catalog.Spells`) : the catalog goes down the forest and hands on the same paths.
`Catalog.SameNames` is what the two have in common.
-/

namespace CallAtlas

namespace Declaration

variable {σ : Type}

mutual

/-- A declaration and all inside it, in order. -/
def nodes : Declaration σ → List (Declaration σ)
  | .mk name kind symbol children => .mk name kind symbol children :: nodesAll children

/-- The declarations of a forest in order. -/
def nodesAll : List (Declaration σ) → List (Declaration σ)
  | [] => []
  | d :: ds => d.nodes ++ nodesAll ds

end

end Declaration

/-! ## The names of an outline -/

namespace Code

mutual

/-- The symbol of a node has the dotted name of its place, and so have those inside it. -/
def IsSpelled (container : String) : Node → Prop
  | .mk name _ symbol children =>
    symbol.qualifiedName = inside (name, container) ∧ AreSpelled (inside (name, container)) children

/-- The symbols of a forest have the dotted names of their places. -/
def AreSpelled (container : String) : List Node → Prop
  | [] => True
  | d :: ds => IsSpelled container d ∧ AreSpelled container ds

end

theorem areSpelled_append {container : String} {ds ds' : List Node} :
    AreSpelled container (ds ++ ds') ↔ AreSpelled container ds ∧ AreSpelled container ds' := by
  induction ds with
  | nil => simp [AreSpelled]
  | cons d ds ih => simp [AreSpelled, ih, and_assoc]

theorem areSpelled_methods (scope className : String)
    (methods : List (String × Option (List Stmt))) :
    AreSpelled (inside (className, scope)) (methods.map (methodNode scope className)) := by
  induction methods with
  | nil => trivial
  | cons m methods ih => exact ⟨⟨rfl, trivial⟩, ih⟩

theorem areSpelled_gather {scope : String} (className : String)
    (methods : List (String × Option (List Stmt))) {nodes : List Node}
    (h : AreSpelled scope nodes) :
    AreSpelled scope (gather scope className methods nodes) := by
  induction nodes with
  | nil => exact ⟨⟨rfl, areSpelled_methods scope className methods⟩, trivial⟩
  | cons d nodes ih =>
    obtain ⟨name, kind, symbol, children⟩ := d
    obtain ⟨⟨hsymbol, hchildren⟩, hrest⟩ := h
    rw [gather]
    split
    · rename_i hclass
      obtain ⟨-, rfl⟩ := hclass
      have hall := areSpelled_append.mpr ⟨hchildren, areSpelled_methods scope name methods⟩
      exact ⟨⟨hsymbol, hall⟩, hrest⟩
    · exact ⟨⟨hsymbol, hchildren⟩, ih hrest⟩

theorem areSpelled_declared {scope : String} {i : Item} {nodes : List Node}
    (h : AreSpelled scope nodes) (hown : ∀ d, i.ownNode? scope = some d → IsSpelled scope d) :
    AreSpelled scope (declared scope nodes i) := by
  cases hi : i.className? with
  | some n =>
    rw [declared_of_className hi]
    exact areSpelled_gather n i.methods h
  | none =>
    rw [declared_of_no_className hi]
    cases hnode : i.ownNode? scope with
    | none => exact areSpelled_append.mpr ⟨h, trivial⟩
    | some d => exact areSpelled_append.mpr ⟨h, hown d hnode, trivial⟩

mutual

theorem isSpelled_ownNode : (i : Item) → {scope : String} → (d : Node) → i.ownNode? scope = some d →
    IsSpelled scope d
  | .function name body, _, d, h => by
    obtain rfl := Option.some.inj h
    exact ⟨rfl, trivial⟩
  | .module name (some content), scope, d, h => by
    obtain rfl := Option.some.inj h
    have hnone : AreSpelled (inside (name, scope)) [] := trivial
    exact ⟨rfl, areSpelled_declareAll content Outline.indexed_empty hnone⟩
  | .struct _, _, _, h => nomatch h
  | .enum _, _, _, h => nomatch h
  | .union _, _, _, h => nomatch h
  | .trait _ _, _, _, h => nomatch h
  | .implementation _ _, _, _, h => nomatch h
  | .module _ none, _, _, h => nomatch h
  | .other, _, _, h => nomatch h

theorem areSpelled_declareAll : (items : List Item) → {scope : String} → {o : Outline} → o.Indexed →
    AreSpelled scope o.nodes → AreSpelled scope (declareAll scope o items).nodes
  | [], _, _, _, h => by
    rwa [declareAll]
  | i :: items, scope, o, hindexed, h => by
    obtain ⟨hnext, hnodes⟩ := Outline.declareItem_spec hindexed scope i
    rw [declareAll]
    refine areSpelled_declareAll items hnext ?_
    rw [hnodes]
    exact areSpelled_declared h (isSpelled_ownNode i)

end

theorem areSpelled_outline (scope : String) (items : List Item) :
    AreSpelled scope (declareItems scope items) := by
  have hnone : AreSpelled scope [] := trivial
  exact areSpelled_declareAll items Outline.indexed_empty hnone

/-- What a reader of files finds in a file is spelled with the import path of the file. -/
theorem areSpelled_declarations {fs : FileSystem} {f : FileRow} {ds : List Node}
    (h : (sourceReader fs).declarations f = .ok ds) : AreSpelled f.importPath ds := by
  simp only [sourceReader, outlineFile] at h
  cases hread : fs.readText f.fullPath with
  | error e => simp [hread, Except.mapError] at h
  | ok text =>
    cases hitems : Item.ofSource? text with
    | none => simp [hread, outline?, hitems, Except.mapError] at h
    | some items =>
      simp only [hread, outline?, hitems, Option.map_some, Except.mapError, Except.ok.injEq] at h
      obtain rfl := h
      exact areSpelled_outline f.importPath items

/-! ## The same names in order -/

/-- Name, kind and dotted name of a node. -/
def label (d : Node) : String × Kind × String :=
  (d.name, d.kind, d.symbol.qualifiedName)

/-- Name, kind and dotted name of an occurrence. -/
def occurrenceLabel (x : Occurrence) : String × Kind × String :=
  (x.name, x.kind, x.container ++ "." ++ x.name)

mutual

theorem map_label_nodes (fileId : Nat) : (d : Node) → {container : String} →
    (around : Option (String × String)) → IsSpelled container d →
    d.nodes.map label = (d.occurrences fileId container around).map occurrenceLabel
  | .mk name kind symbol children, container, around, h => by
    rw [Declaration.nodes, Declaration.occurrences, List.map_cons, List.map_cons,
      map_label_nodesAll fileId children _ h.2, label, Declaration.symbol, h.1]
    rfl

theorem map_label_nodesAll (fileId : Nat) : (ds : List Node) → {container : String} →
    (around : Option (String × String)) → AreSpelled container ds →
    (Declaration.nodesAll ds).map label =
      (Declaration.occurrencesAll fileId container around ds).map occurrenceLabel
  | [], _, _, _ => by
    rw [Declaration.nodesAll, Declaration.occurrencesAll, List.map_nil, List.map_nil]
  | d :: ds, _, around, h => by
    rw [Declaration.nodesAll, Declaration.occurrencesAll, List.map_append, List.map_append,
      map_label_nodes fileId d around h.1, map_label_nodesAll fileId ds around h.2]

end

end Code

/-! ## The rows of symbols -/

namespace Catalog

open Code (Symbol IsSpelled AreSpelled label occurrenceLabel sourceReader)

/-- `c'` is `c` with more rows, numbered on, and each of `found` has the dotted name of its row
among them. -/
structure Spells (c c' : Catalog) (found : List (Discovered Symbol)) (rows : List EntityRow) :
    Prop where
  entities : c'.entities = c.entities ++ rows
  numbered : rows.map (·.id) = List.range' (c.entities.length + 1) rows.length
  names : ∀ d ∈ found, ∃ e ∈ rows, e.tag = d.tag ∧ d.symbol.qualifiedName = inside e.key

theorem Spells.refl (c : Catalog) : Spells c c [] [] where
  entities := (List.append_nil _).symm
  numbered := rfl
  names := by simp

theorem Spells.trans {c₁ c₂ c₃ : Catalog} {found found' : List (Discovered Symbol)}
    {rows rows' : List EntityRow} (h : Spells c₁ c₂ found rows) (h' : Spells c₂ c₃ found' rows') :
    Spells c₁ c₃ (found ++ found') (rows ++ rows') where
  entities := by rw [h'.entities, h.entities, List.append_assoc]
  numbered := by
    rw [List.map_append, h.numbered, h'.numbered, h.entities, List.length_append,
      List.length_append, Nat.add_right_comm, List.range'_append_1]
  names d hd := by
    rcases List.mem_append.mp hd with hd | hd
    · obtain ⟨e, he, hname⟩ := h.names d hd
      exact ⟨e, List.mem_append_left _ he, hname⟩
    · obtain ⟨e, he, hname⟩ := h'.names d hd
      exact ⟨e, List.mem_append_right _ he, hname⟩

theorem spells_addEntity (c : Catalog) (d : EntityDraft) {symbol : Symbol}
    (h : symbol.qualifiedName = inside (d.name, d.importPath)) :
    ∃ rows, Spells c (c.addEntity d).1 (foundBy d symbol (c.addEntity d).2) rows := by
  rcases c.addEntity_cases d with ⟨e, -, -, he⟩ | ⟨-, he⟩
  · have hnone : foundBy d symbol (.existing e.id) = [] := by simp [foundBy, Registration.isCreated]
    rw [he, hnone]
    exact ⟨[], .refl c⟩
  · rw [he]
    refine ⟨[{ d with id := c.entities.length + 1 }], rfl, rfl, fun x hx => ?_⟩
    refine ⟨_, List.mem_singleton.mpr rfl, ?_⟩
    unfold foundBy at hx
    split at hx
    · obtain rfl := List.mem_singleton.mp hx
      exact ⟨rfl, h⟩
    · cases hx

mutual

theorem spells_declareOne (fileId : Nat) :
    (d : Code.Node) → (container : String) → (owner : Option Nat) →
    (c : Catalog) → IsSpelled container d →
    ∃ rows, Spells c (declareOne fileId container owner c d).1
      (declareOne fileId container owner c d).2 rows
  | .mk name kind symbol children, container, owner, c, h => by
    obtain ⟨rows, hown⟩ := spells_addEntity c (draft fileId container owner name kind) h.1
    obtain ⟨rows', hrest⟩ := spells_declareAll fileId children (inside (name, container))
      (if kind = .classType then some (c.addEntity (draft fileId container owner name kind)).2.id
        else none) (c.addEntity (draft fileId container owner name kind)).1 h.2
    refine ⟨rows ++ rows', ?_⟩
    rw [declareOne]
    exact hown.trans hrest

theorem spells_declareAll (fileId : Nat) : (ds : List Code.Node) → (container : String) →
    (owner : Option Nat) → (c : Catalog) → AreSpelled container ds →
    ∃ rows, Spells c (declareAll fileId container owner c ds).1
      (declareAll fileId container owner c ds).2 rows
  | [], _, _, c, _ => ⟨[], .refl c⟩
  | d :: ds, container, owner, c, h => by
    obtain ⟨rows, hfirst⟩ := spells_declareOne fileId d container owner c h.1
    obtain ⟨rows', hrest⟩ := spells_declareAll fileId ds container owner
      (declareOne fileId container owner c d).1 h.2
    refine ⟨rows ++ rows', ?_⟩
    rw [declareAll]
    exact hfirst.trans hrest

end

/-- A row that was added is found by its id, whatever rows there were before. -/
theorem Spells.entity?_id {c c' : Catalog} {found : List (Discovered Symbol)}
    {rows : List EntityRow} (h : Spells c c' found rows) {e : EntityRow} (he : e ∈ rows) :
    c'.entity? e.id = some e := by
  have hids : (rows.map (·.id)).Nodup := by
    rw [h.numbered]
    exact List.nodup_range'
  have hone : rows.filter (·.id == e.id) = [e] := by
    rw [filter_eq_toList_find? e.id hids, find?_key_of_mem hids he, Option.toList_some]
  rw [entity?_eq, h.entities, List.filter_append, hone, List.getLast?_concat]

/-- An outline and the catalog where it is registered spell the same names. -/
structure SameNames (c : Catalog) (fileId : Nat) (scope : String) (ds : List Code.Node) : Prop where
  /-- The catalog enters the nodes in order, each under the path of its container. -/
  entered : (c.declare fileId scope ds).1 =
    (Declaration.occurrencesAll fileId scope none ds).foldl enter c
  /-- In this order each node has the dotted name of its path. -/
  labels : (Declaration.nodesAll ds).map label =
    (Declaration.occurrencesAll fileId scope none ds).map occurrenceLabel
  /-- A discovered symbol has the dotted name of the row with its id. -/
  rows : ∀ d ∈ (c.declare fileId scope ds).2, ∃ e,
    (c.declare fileId scope ds).1.entity? d.entityId = some e ∧
    e.tag = d.tag ∧ d.symbol.qualifiedName = e.importPath ++ "." ++ e.name

theorem sameNames {scope : String} {ds : List Code.Node} (h : AreSpelled scope ds) (c : Catalog)
    (fileId : Nat) :
    c.SameNames fileId scope ds where
  entered := c.declare_eq_foldl fileId scope ds
  labels := Code.map_label_nodesAll fileId ds none h
  rows d hd := by
    obtain ⟨rows, hspells⟩ := spells_declareAll fileId ds scope none c h
    obtain ⟨e, he, htag, hname⟩ := hspells.names d hd
    have hid : e.id = d.entityId := congrArg (·.1) htag
    exact ⟨e, hid ▸ hspells.entity?_id he, htag, hname⟩

/-- Sources that are spelled give symbols with the dotted names of their rows. -/
theorem exists_row_of_discovered {i : SourceReader Symbol}
    (h : ∀ f ds, i.declarations f = .ok ds → AreSpelled f.importPath ds) (sources : List Source) :
    ∀ d ∈ discovered i sources, ∃ e ∈ (registered i sources).entities, e.tag = d.tag ∧
      d.symbol.qualifiedName = inside e.key := by
  induction sources using List.reverseRecOn with
  | nil => simp [discovered, addSources]
  | append_singleton sources s ih =>
    have hwf := wellFormed_registered i sources
    intro d hd
    rw [discovered_concat] at hd
    rw [registered_concat]
    rcases List.mem_append.mp hd with hd | hd
    · obtain ⟨e, he, hname⟩ := ih d hd
      exact ⟨e, (prefix_entities_addSource i hwf s).subset he, hname⟩
    · obtain ⟨f, -, -, ⟨-, he⟩ | ⟨-, reason, -, he⟩ | ⟨-, ds, hds, he⟩⟩ := addSource_cases i hwf s
      · simp [foundIn, he, Except.toOption] at hd
      · simp [foundIn, he, Except.toOption] at hd
      · obtain ⟨rows, hspells⟩ := spells_declareAll f.id ds f.importPath none
          ((registered i sources).addFile s).1 (h f ds hds)
        simp only [foundIn, he, Except.toOption, Option.getD_some] at hd
        obtain ⟨e, hmem, hname⟩ := hspells.names d hd
        rw [he]
        refine ⟨e, ?_, hname⟩
        rw [declare, hspells.entities]
        exact List.mem_append_right _ hmem

/-- **Outlines and catalogs agree on names.** Whatever items are declared in a scope, and whatever
is in the catalog, registering them under the scope gives every node the path that its dotted name
was made of. So in an analysis of files every symbol has the dotted name of its row. -/
theorem outline_names_agree :
    (∀ (items : List Code.Item) (scope : String) (fileId : Nat) (c : Catalog),
      c.SameNames fileId scope (Code.declareItems scope items)) ∧
    ∀ (fs : FileSystem) (o : ResolveOptions) (sources : List Source),
      ∀ d ∈ discovered (sourceReader fs) sources,
        ∃ e, (analyzed (sourceReader fs) o sources).entity? d.entityId = some e ∧ e.tag = d.tag ∧
          d.symbol.qualifiedName = e.importPath ++ "." ++ e.name := by
  refine ⟨fun items scope fileId c => ?_, fun fs o sources d hd => ?_⟩
  · exact sameNames (Code.areSpelled_outline scope items) c fileId
  · obtain ⟨e, he, htag, hname⟩ :=
      exists_row_of_discovered (fun _ _ => Code.areSpelled_declarations) sources d hd
    have hid : e.id = d.entityId := congrArg (·.1) htag
    have hmem : e ∈ (analyzed (sourceReader fs) o sources).entities := by
      rw [(registered_analyzed (sourceReader fs) o sources).2]
      exact he
    exact ⟨e, hid ▸ (wellFormed_analyzed (sourceReader fs) o sources).entity?_id hmem, htag, hname⟩

/-- A class with an implementation after a module that has a trait with an implementation of
its own. -/
def cartItems : List Code.Item := [
  .struct "Cart",
  .module "tax" (some [
    .trait "Rule" [.method "rate" none],
    .function "due" [],
    .implementation (.path ["self", "Rule"]) [.method "all" (some [])]]),
  .implementation (.path ["Cart"]) [.method "add" (some [])]]

/-- A file with the class and the module. -/
def cartFiles : FileSystem where
  root := .directory true [("app.rs", .file (.ofText
    "struct Cart; mod tax \x7b trait Rule \x7b fn rate(); \x7d fn due() \x7b\x7d \x7d"))]

theorem outline_names_agree_cart :
    let r :=
      (empty.addFile ⟨"/app.rs", "app", 0⟩).1.declare 1 "app" (Code.declareItems "app" cartItems)
    let sources : List Source := [⟨"/app.rs", "app", 0⟩]
    r.2.map (fun d => (d.entityId, d.symbol.qualifiedName)) =
      [(2, "app.Cart.add"), (5, "app.tax.Rule.rate"), (6, "app.tax.Rule.all"), (7, "app.tax.due")] ∧
    (⟨6, 1, "all", ⟨"app.tax.Rule.all", []⟩⟩ ∈ r.2 ∧
      ∃ e, r.1.entity? 6 = some e ∧ "app.tax.Rule.all" = e.importPath ++ "." ++ e.name) ∧
    ⟨5, 1, "due", ⟨"app.tax.due", []⟩⟩ ∈ discovered (sourceReader cartFiles) sources ∧
      ∃ e, (analyzed (sourceReader cartFiles) {} sources).entity? 5 = some e ∧
        "app.tax.due" = e.importPath ++ "." ++ e.name := by
  intro r sources
  have hall : ⟨6, 1, "all", ⟨"app.tax.Rule.all", []⟩⟩ ∈ r.2 := by decide
  have hdue : ⟨5, 1, "due", ⟨"app.tax.due", []⟩⟩ ∈ discovered (sourceReader cartFiles) sources := by
    decide +kernel
  obtain ⟨hsame, hfiles⟩ := outline_names_agree
  obtain ⟨e, he, -, hname⟩ :=
    (hsame cartItems "app" 1 (empty.addFile ⟨"/app.rs", "app", 0⟩).1).rows _ hall
  obtain ⟨e', he', -, hname'⟩ := hfiles cartFiles {} sources _ hdue
  exact ⟨by decide, ⟨hall, e, he, hname⟩, hdue, e', he', hname'⟩

end Catalog

end CallAtlas
