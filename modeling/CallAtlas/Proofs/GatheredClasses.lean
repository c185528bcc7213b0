import Mathlib.Data.List.Basic
import Mathlib.Data.List.Forall2
import Mathlib.Data.List.Induction
import CallAtlas.Code.Outline

/-!
# Classes of an outline

The methods of a class may stand in many items : in its trait, and in any number of implementations
before and after its own declaration. An outline has one node for each class, at the place where it
is first mentioned (`Code.firsts`), and gathers there the methods that all items have for it, in
document order (`Code.classNode`). Functions and inline modules have a node each.

While an outline is made, an index leads from each class to its slot. It always agrees with a search
of the nodes (`Outline.Indexed`), so to add a method in a slot is to add it to the node of the class
(`Outline.declareItem_spec`). Each item then takes an outline of the items before it to one of the
items up to it, and this holds of every list of items (`Code.declareItems_eq`).
-/

namespace CallAtlas.Code

/-! ## What items declare -/

/-- The name of a method and the body that it may have. -/
def Member.method? : Member → Option (String × Option (List Stmt))
  | .method name body => some (name, body)
  | .other => none

namespace Item

/-- The class that an item declares or has methods for. For an implementation it is the last step of
the path. -/
def className? : Item → Option String
  | .struct name => some name
  | .enum name => some name
  | .union name => some name
  | .trait name _ => some name
  | .implementation (.path segments) _ => segments.getLast?
  | _ => none

/-- The methods in an item. -/
def methods : Item → List (String × Option (List Stmt))
  | .trait _ members => members.filterMap (·.method?)
  | .implementation _ members => members.filterMap (·.method?)
  | _ => []

/-- The methods that an item has for a class. -/
def methodsFor (className : String) (i : Item) : List (String × Option (List Stmt)) :=
  if i.className? = some className then i.methods else []

/-- Whether an item mentions a class that an earlier one mentions. -/
def isRepeated (before : List Item) (i : Item) : Bool :=
  i.className?.any fun n => before.any (·.className? = some n)

/-- Whether an item declares anything. -/
def isDeclaration : Item → Bool
  | .implementation (.path segments) _ => !segments.isEmpty
  | .implementation .other _ => false
  | .module _ none => false
  | .other => false
  | _ => true

end Item

/-- The items without those that mention a class again. -/
def firsts (items : List Item) : List Item :=
  (items.zipIdx.filter fun x => !x.1.isRepeated (items.take x.2)).map (·.1)

/-- The node of a method. -/
def methodNode (scope className : String) (m : String × Option (List Stmt)) : Node :=
  .mk m.1 .method (symbolIn (scope ++ "." ++ className) m.1 m.2) []

/-- The node of a class, with the methods that items have for it. -/
def classNode (scope : String) (items : List Item) (className : String) : Node :=
  .mk className .classType (symbolIn scope className none)
    ((items.flatMap (·.methodsFor className)).map (methodNode scope className))

/-- The node that a function or an inline module has of its own. -/
def Item.ownNode? (scope : String) : Item → Option Node
  | .function name body => some (.mk name .function (symbolIn scope name (some body)) [])
  | .module name (some content) =>
    some (.mk name .module (symbolIn scope name none) (declareItems (scope ++ "." ++ name) content))
  | _ => none

/-- The node of a first mention among items. -/
def nodeOf? (scope : String) (items : List Item) (i : Item) : Option Node :=
  match i.className? with
  | some n => some (classNode scope items n)
  | none => i.ownNode? scope

variable {scope : String} {items : List Item} {i : Item}

theorem ownNode?_of_className {n : String} (h : i.className? = some n) :
    i.ownNode? scope = none := by
  cases i with
  | struct name => rfl
  | enum name => rfl
  | union name => rfl
  | trait name members => rfl
  | implementation self members => rfl
  | function name body => cases h
  | module name content => cases h
  | other => cases h

/-! ## First mentions -/

theorem isRepeated_iff {n : String} (h : i.className? = some n) :
    i.isRepeated items = true ↔ ∃ j ∈ items, j.className? = some n := by
  simp [Item.isRepeated, h]

theorem isRepeated_of_no_className (h : i.className? = none) : i.isRepeated items = false := by
  simp [Item.isRepeated, h]

theorem firsts_concat :
    firsts (items ++ [i]) = firsts items ++ if i.isRepeated items then [] else [i] := by
  have hold : (items.zipIdx.filter fun x => !x.1.isRepeated ((items ++ [i]).take x.2)) =
      items.zipIdx.filter fun x => !x.1.isRepeated (items.take x.2) := by
    refine List.filter_congr fun x hx => ?_
    have hlt : x.2 < items.length := List.snd_lt_of_mem_zipIdx hx
    rw [List.take_append_of_le_length (Nat.le_of_lt hlt)]
  rw [firsts, List.zipIdx_append, List.filter_append, hold, List.map_append, firsts]
  cases hrepeated : i.isRepeated items <;> simp [hrepeated]

theorem mem_of_mem_firsts (h : i ∈ firsts items) : i ∈ items := by
  obtain ⟨x, hx, rfl⟩ := List.mem_map.mp h
  exact List.fst_mem_of_mem_zipIdx (List.mem_filter.mp hx).1

/-- A class that is mentioned has one first mention. -/
theorem exists_first {n : String} (h : ∃ j ∈ items, j.className? = some n) :
    ∃ pre j post, firsts items = pre ++ j :: post ∧ j.className? = some n ∧
      ∀ k ∈ pre ++ post, k.className? ≠ some n := by
  induction items using List.reverseRecOn with
  | nil => simp at h
  | append_singleton items i ih =>
    rw [firsts_concat]
    by_cases hearlier : ∃ j ∈ items, j.className? = some n
    · obtain ⟨pre, j, post, hfirsts, hj, hothers⟩ := ih hearlier
      refine ⟨pre, j, post ++ if i.isRepeated items then [] else [i], by simp [hfirsts], hj, ?_⟩
      intro k hk hkn
      rw [← List.append_assoc, List.mem_append] at hk
      rcases hk with hk | hk
      · exact hothers k hk hkn
      · -- `i` would be a first mention of `n` after an earlier one
        split at hk
        · cases hk
        · rename_i hrepeated
          rw [List.mem_singleton.mp hk] at hkn
          exact hrepeated ((isRepeated_iff hkn).mpr hearlier)
    · have hi : i.className? = some n := by
        obtain ⟨j, hj, hjn⟩ := h
        rcases List.mem_append.mp hj with hj | hj
        · exact absurd ⟨j, hj, hjn⟩ hearlier
        · rwa [List.mem_singleton.mp hj] at hjn
      rw [if_neg (mt (isRepeated_iff hi).mp hearlier)]
      refine ⟨firsts items, i, [], rfl, hi, fun k hk hkn => hearlier ⟨k, ?_, hkn⟩⟩
      rw [List.append_nil] at hk
      exact mem_of_mem_firsts hk

/-! ## Adding to a class -/

/-- Add methods to the class `className`. A class that is not there yet comes last. -/
def gather (scope className : String) (methods : List (String × Option (List Stmt))) :
    List Node → List Node
  | [] =>
    [.mk className .classType (symbolIn scope className none)
      (methods.map (methodNode scope className))]
  | .mk n k s cs :: rest =>
    if k = .classType ∧ n = className then
      .mk n k s (cs ++ methods.map (methodNode scope className)) :: rest
    else .mk n k s cs :: gather scope className methods rest

section

variable {n : String} {nodes : List Node}

/-- Nodes that are not the class are passed over. -/
theorem gather_append {pre : List Node} (h : ∀ d ∈ pre, ¬(d.kind = .classType ∧ d.name = n))
    (methods : List (String × Option (List Stmt))) (rest : List Node) :
    gather scope n methods (pre ++ rest) = pre ++ gather scope n methods rest := by
  induction pre with
  | nil => rfl
  | cons d pre ih =>
    obtain ⟨name, kind, symbol, children⟩ := d
    have hd : ¬(kind = .classType ∧ name = n) := h _ List.mem_cons_self
    rw [List.cons_append, gather, if_neg hd, ih fun d hd => h d (List.mem_cons_of_mem _ hd),
      List.cons_append]

/-- A class that is not there yet comes last. -/
theorem gather_of_new (h : ∀ d ∈ nodes, ¬(d.kind = .classType ∧ d.name = n))
    (methods : List (String × Option (List Stmt))) : gather scope n methods nodes =
      nodes ++ [.mk n .classType (symbolIn scope n none) (methods.map (methodNode scope n))] := by
  have hlast := @gather_append scope n nodes h methods []
  rwa [List.append_nil, gather] at hlast

/-- Methods may be added one after another. -/
theorem gather_gather (ms ms' : List (String × Option (List Stmt))) :
    gather scope n ms' (gather scope n ms nodes) = gather scope n (ms ++ ms') nodes := by
  induction nodes with
  | nil => simp [gather]
  | cons d nodes ih =>
    obtain ⟨name, kind, symbol, children⟩ := d
    by_cases hd : kind = .classType ∧ name = n
    · simp [gather, hd]
    · simp only [gather, if_neg hd, ih]

end

/-! ## Slots -/

/-- Whether a node is a class of a name. -/
def isClass (n : String) (d : Node) : Bool :=
  d.kind == .classType && d.name == n

/-- A node with more inside. -/
def withChildren (children : List Node) (d : Node) : Node :=
  .mk d.name d.kind d.symbol (d.children ++ children)

theorem withChildren_nil : withChildren [] = id := by
  funext d
  cases d
  simp [withChildren]

/-- A change that does not touch what is looked for does not move it. -/
theorem findIdx?_modify {α : Type} {p : α → Bool} {f : α → α} (h : ∀ x, p (f x) = p x) :
    (xs : List α) → (k : Nat) → (xs.modify k f).findIdx? p = xs.findIdx? p
  | [], k => by simp
  | x :: xs, 0 => by simp [List.findIdx?_cons, h]
  | x :: xs, k + 1 => by simp [List.findIdx?_cons, findIdx?_modify h xs k]

/-- To add methods to a class is to add them to the first node that is the class. -/
theorem gather_of_slot {n : String} {nodes : List Node} {slot : Nat}
    (h : nodes.findIdx? (isClass n) = some slot) (methods : List (String × Option (List Stmt))) :
    gather scope n methods nodes =
      nodes.modify slot (withChildren (methods.map (methodNode scope n))) := by
  induction nodes generalizing slot with
  | nil => cases h
  | cons d nodes ih =>
    obtain ⟨name, kind, symbol, children⟩ := d
    rw [List.findIdx?_cons] at h
    by_cases hd : kind = .classType ∧ name = n
    · have hclass : isClass n (.mk name kind symbol children) = true := by simpa [isClass] using hd
      rw [hclass, if_pos rfl] at h
      obtain rfl := Option.some.inj h
      rw [gather, if_pos hd]
      rfl
    · have hother : isClass n (.mk name kind symbol children) = false := by simpa [isClass] using hd
      rw [hother, if_neg Bool.false_ne_true, Option.map_eq_some_iff] at h
      obtain ⟨slot, hslot, rfl⟩ := h
      rw [gather, if_neg hd, ih hslot, List.modify_succ_cons]

namespace Outline

/-- The index finds each class where a search of the nodes does. -/
def Indexed (o : Outline) : Prop :=
  ∀ n, o.classes.get? n = o.nodes.findIdx? (isClass n)

theorem indexed_empty : Indexed {} :=
  fun _ => rfl

variable {o : Outline} (h : o.Indexed)
include h

/-- What is no class is pushed without a slot. -/
theorem indexed_push {d : Node} (hd : d.kind ≠ .classType) : (o.push d).Indexed := by
  intro n
  have hother : isClass n d = false := by simp [isClass, hd]
  simp [push, List.findIdx?_append, hother, h n]

theorem not_isClass_of_new {n : String} (hn : o.classes.get? n = none) :
    ∀ d ∈ o.nodes, ¬(d.kind = .classType ∧ d.name = n) := by
  rw [h n, List.findIdx?_eq_none_iff] at hn
  intro d hd hclass
  simpa [isClass, hclass] using hn d hd

/-- A class has its slot then, and is there if it was not. -/
theorem classSlot_spec (scope n : String) :
    (o.classSlot scope n).1.Indexed ∧
    (o.classSlot scope n).1.nodes.findIdx? (isClass n) = some (o.classSlot scope n).2 ∧
    (o.classSlot scope n).1.nodes = gather scope n [] o.nodes := by
  unfold classSlot
  cases hn : o.classes.get? n with
  | some slot =>
    have hslot := (h n).symm.trans hn
    refine ⟨h, hslot, ?_⟩
    rw [gather_of_slot hslot, List.map_nil, withChildren_nil, List.modify_id]
  | none =>
    have hnone := (h n).symm.trans hn
    refine ⟨fun m => ?_, ?_, ?_⟩
    · by_cases hm : m = n
      · subst hm
        simp [push, List.findIdx?_append, hnone, isClass]
      · have hother : ¬n = m := fun e => hm e.symm
        simp [push, List.findIdx?_append, Index.get?_insert_of_ne hm, h m, isClass, hother]
    · simp [push, List.findIdx?_append, hnone, isClass]
    · exact (gather_of_new (not_isClass_of_new h hn) []).symm

omit h in
/-- Members are added to the slot one by one, as all their methods at once. -/
theorem foldl_addMember (scope n : String) (slot : Nat) (members : List Member) (o : Outline) :
    members.foldl (addMember (scope ++ "." ++ n) slot) o =
      ⟨o.nodes.modify slot
        (withChildren ((members.filterMap (·.method?)).map (methodNode scope n))), o.classes⟩ := by
  induction members generalizing o with
  | nil => simp [withChildren_nil]
  | cons m members ih =>
    rw [List.foldl_cons, ih]
    cases m with
    | other => rfl
    | method name body =>
      have hboth : withChildren ((members.filterMap (·.method?)).map (methodNode scope n)) ∘
          (·.withChild (methodNode scope n (name, body))) =
          withChildren ((Member.method name body :: members).filterMap (·.method?) |>.map
            (methodNode scope n)) := by
        funext d
        cases d
        simp [withChildren, Declaration.withChild, Member.method?]
      rw [← hboth, ← List.modify_modify_eq]
      rfl

theorem addToClass_spec (scope n : String) (members : List Member) :
    (o.addToClass scope n members).Indexed ∧
    (o.addToClass scope n members).nodes =
      gather scope n (members.filterMap (·.method?)) o.nodes := by
  obtain ⟨hindexed, hslot, hnodes⟩ := classSlot_spec h scope n
  simp only [addToClass, foldl_addMember]
  refine ⟨fun m => ?_, ?_⟩
  · have hsame : ∀ children d, isClass m (withChildren children d) = isClass m d := fun _ _ => rfl
    exact (hindexed m).trans (findIdx?_modify (hsame _) _ _).symm
  · rw [← gather_of_slot hslot, hnodes, gather_gather, List.nil_append]

end Outline

/-- The nodes after an item, with the nodes before it. -/
def declared (scope : String) (nodes : List Node) (i : Item) : List Node :=
  match i.className? with
  | some n => gather scope n i.methods nodes
  | none => nodes ++ (i.ownNode? scope).toList

theorem declared_of_className {n : String} (h : i.className? = some n) (nodes : List Node) :
    declared scope nodes i = gather scope n i.methods nodes := by
  rw [declared, h]

theorem declared_of_no_className (h : i.className? = none) (nodes : List Node) :
    declared scope nodes i = nodes ++ (i.ownNode? scope).toList := by
  rw [declared, h]

/-- An item keeps the index, and does to the nodes what a search would do. -/
theorem Outline.declareItem_spec {o : Outline} (h : o.Indexed) (scope : String) (i : Item) :
    (declareItem scope o i).Indexed ∧ (declareItem scope o i).nodes = declared scope o.nodes i := by
  cases i with
  | function name body =>
    rw [declareItem]
    exact ⟨indexed_push h nofun, rfl⟩
  | struct name | enum name | union name =>
    rw [declareItem]
    exact ⟨(classSlot_spec h scope name).1, (classSlot_spec h scope name).2.2⟩
  | trait name members =>
    rw [declareItem]
    exact addToClass_spec h scope name members
  | implementation self members =>
    cases self with
    | path segments =>
      rw [declareItem]
      cases hlast : segments.getLast? with
      | some name =>
        have hname : (Item.implementation (.path segments) members).className? = some name := hlast
        rw [declared_of_className hname]
        exact addToClass_spec h scope name members
      | none =>
        have hname : (Item.implementation (.path segments) members).className? = none := hlast
        rw [declared_of_no_className hname]
        exact ⟨h, (List.append_nil _).symm⟩
    | other =>
      rw [declareItem]
      exact ⟨h, (List.append_nil _).symm⟩
  | module name content =>
    cases content with
    | some content =>
      rw [declareItem]
      exact ⟨indexed_push h nofun, rfl⟩
    | none =>
      rw [declareItem]
      exact ⟨h, (List.append_nil _).symm⟩
  | other =>
    rw [declareItem]
    exact ⟨h, (List.append_nil _).symm⟩

theorem declareAll_concat (o : Outline) :
    declareAll scope o (items ++ [i]) = declareItem scope (declareAll scope o items) i := by
  induction items generalizing o with
  | nil => rw [List.nil_append, declareAll, declareAll, declareAll]
  | cons j items ih => rw [List.cons_append, declareAll, ih, declareAll]

/-! ## Nodes of first mentions -/

theorem nodeOf?_of_className {n : String} (h : i.className? = some n) :
    nodeOf? scope items i = some (classNode scope items n) := by
  rw [nodeOf?, h]

theorem nodeOf?_of_no_className (h : i.className? = none) :
    nodeOf? scope items i = i.ownNode? scope := by
  rw [nodeOf?, h]

theorem kind_of_ownNode? {d : Node} (h : i.ownNode? scope = some d) : d.kind ≠ .classType := by
  unfold Item.ownNode? at h
  split at h
  · obtain rfl := Option.some.inj h
    exact nofun
  · obtain rfl := Option.some.inj h
    exact nofun
  · cases h

theorem className?_of_nodeOf? {d : Node} (h : nodeOf? scope items i = some d)
    (hd : d.kind = .classType) :
    i.className? = some d.name := by
  cases hi : i.className? with
  | some n =>
    rw [nodeOf?_of_className hi] at h
    obtain rfl := Option.some.inj h
    rfl
  | none =>
    rw [nodeOf?_of_no_className hi] at h
    exact absurd hd (kind_of_ownNode? h)

/-- Where a class is not mentioned, there is no node for it. -/
theorem not_class_of_mem {n : String} {js : List Item} (h : ∀ j ∈ js, j.className? ≠ some n) :
    ∀ d ∈ js.filterMap (nodeOf? scope items), ¬(d.kind = .classType ∧ d.name = n) := by
  rintro d hd ⟨hkind, rfl⟩
  obtain ⟨j, hj, hnode⟩ := List.mem_filterMap.mp hd
  exact h j hj (className?_of_nodeOf? hnode hkind)

/-- An item that is not for the classes of some items does not change their nodes. -/
theorem filterMap_nodeOf?_concat {js : List Item}
    (h : ∀ j ∈ js, ∀ n, j.className? = some n → i.className? ≠ some n) :
    js.filterMap (nodeOf? scope (items ++ [i])) = js.filterMap (nodeOf? scope items) := by
  refine List.filterMap_congr fun j hj => ?_
  cases hjn : j.className? with
  | none => rw [nodeOf?_of_no_className hjn, nodeOf?_of_no_className hjn]
  | some n =>
    have hi : i.className? ≠ some n := h j hj n hjn
    rw [nodeOf?_of_className hjn, nodeOf?_of_className hjn]
    simp [classNode, Item.methodsFor, hi]

/-- An item for a class adds its methods to the node of the class. -/
theorem classNode_concat {n : String} (h : i.className? = some n) :
    classNode scope (items ++ [i]) n =
    .mk n .classType (symbolIn scope n none)
      ((items.flatMap (·.methodsFor n)).map (methodNode scope n) ++
      i.methods.map (methodNode scope n)) := by
  simp [classNode, Item.methodsFor, h]

/-! ## Outlines -/

/-- The outline of items : the nodes of their first mentions. -/
def outlined (scope : String) (items : List Item) : List Node :=
  (firsts items).filterMap (nodeOf? scope items)

theorem outlined_concat_own (h : i.className? = none) :
    outlined scope (items ++ [i]) = outlined scope items ++ (i.ownNode? scope).toList := by
  rw [outlined, firsts_concat, isRepeated_of_no_className h, if_neg Bool.false_ne_true,
    List.filterMap_append,
    filterMap_nodeOf?_concat fun j _ n _ hn => absurd (h.symm.trans hn) nofun, List.filterMap_cons,
    nodeOf?_of_no_className h, outlined]
  cases i.ownNode? scope <;> rfl

/-- A class that is mentioned again keeps its node, and gets the methods of the item. -/
theorem outlined_concat_again {n : String} (h : i.className? = some n)
    (hearlier : ∃ j ∈ items, j.className? = some n) :
    outlined scope (items ++ [i]) = gather scope n i.methods (outlined scope items) := by
  obtain ⟨pre, j, post, hfirsts, hj, hothers⟩ := exists_first hearlier
  have hpre : ∀ k ∈ pre, k.className? ≠ some n := fun k hk => hothers k (List.mem_append_left _ hk)
  have hpost : ∀ k ∈ post, k.className? ≠ some n := fun k hk =>
    hothers k (List.mem_append_right _ hk)
  rw [outlined, firsts_concat, (isRepeated_iff h).mpr hearlier, if_pos rfl, List.append_nil,
    outlined, hfirsts, List.filterMap_append, List.filterMap_append, List.filterMap_cons,
    List.filterMap_cons, nodeOf?_of_className hj, nodeOf?_of_className hj,
    filterMap_nodeOf?_concat fun k hk m hkm hm => hpre k hk (hkm.trans (hm.symm.trans h)),
    filterMap_nodeOf?_concat fun k hk m hkm hm => hpost k hk (hkm.trans (hm.symm.trans h)),
    gather_append (not_class_of_mem hpre), classNode_concat h, classNode]
  simp [gather]

/-- A class that is first mentioned gets a node after the others. -/
theorem outlined_concat_first {n : String} (h : i.className? = some n)
    (hfirst : ¬∃ j ∈ items, j.className? = some n) :
    outlined scope (items ++ [i]) = gather scope n i.methods (outlined scope items) := by
  have hnone : ∀ j ∈ firsts items, j.className? ≠ some n :=
    fun j hj hjn => hfirst ⟨j, mem_of_mem_firsts hj, hjn⟩
  have hmethods : items.flatMap (·.methodsFor n) = [] := by
    rw [List.flatMap_eq_nil_iff]
    exact fun j hj => if_neg fun hjn => hfirst ⟨j, hj, hjn⟩
  rw [outlined, firsts_concat, if_neg (mt (isRepeated_iff h).mp hfirst), List.filterMap_append,
    filterMap_nodeOf?_concat fun j hj m hjm hm => hnone j hj (hjm.trans (hm.symm.trans h)),
    List.filterMap_cons, nodeOf?_of_className h, classNode_concat h, hmethods, outlined,
    gather_of_new (not_class_of_mem hnone)]
  rfl

/-- An item takes the outline of the items before it to that of the items up to it. -/
theorem declared_outlined :
    declared scope (outlined scope items) i = outlined scope (items ++ [i]) := by
  cases hi : i.className? with
  | none => rw [declared_of_no_className hi, outlined_concat_own hi]
  | some n =>
    rw [declared_of_className hi]
    by_cases hearlier : ∃ j ∈ items, j.className? = some n
    · rw [outlined_concat_again hi hearlier]
    · rw [outlined_concat_first hi hearlier]

theorem declareAll_spec (scope : String) (items : List Item) :
    (declareAll scope {} items).Indexed ∧
      (declareAll scope {} items).nodes = outlined scope items := by
  induction items using List.reverseRecOn with
  | nil =>
    rw [declareAll]
    exact ⟨Outline.indexed_empty, rfl⟩
  | append_singleton items i ih =>
    obtain ⟨hindexed, hnodes⟩ := Outline.declareItem_spec ih.1 scope i
    rw [declareAll_concat]
    exact ⟨hindexed, by rw [hnodes, ih.2, declared_outlined]⟩

theorem declareItems_eq (scope : String) (items : List Item) :
    declareItems scope items = outlined scope items :=
  (declareAll_spec scope items).2

/-! ## Parts of an outline -/

/-- Functions and modules are never left out. -/
theorem filterMap_ownNode?_firsts (scope : String) (items : List Item) :
    (firsts items).filterMap (·.ownNode? scope) = items.filterMap (·.ownNode? scope) := by
  induction items using List.reverseRecOn with
  | nil => rfl
  | append_singleton items i ih =>
    rw [firsts_concat, List.filterMap_append, List.filterMap_append, ih]
    split
    · rename_i hrepeated
      obtain ⟨n, hn, -⟩ := Option.any_eq_true _ _ |>.mp hrepeated
      rw [List.filterMap_cons, ownNode?_of_className hn]
    · rfl

/-- The classes of the first mentions are those of all items, each once. -/
theorem filterMap_className?_firsts (items : List Item) :
    (firsts items).filterMap (·.className?) = (items.filterMap (·.className?)).eraseDups := by
  induction items using List.reverseRecOn with
  | nil => rfl
  | append_singleton items i ih =>
    rw [firsts_concat, List.filterMap_append, List.filterMap_append, ih, List.eraseDups_append]
    cases hi : i.className? with
    | none => simp [isRepeated_of_no_className hi, hi, List.removeAll]
    | some n =>
      by_cases hearlier : ∃ j ∈ items, j.className? = some n
      · simp [(isRepeated_iff hi).mpr hearlier, hi, List.removeAll, hearlier]
      · have hfirst := mt (isRepeated_iff hi).mp hearlier
        simp [hfirst, hi, List.removeAll, hearlier, List.eraseDups_cons]

/-- Functions and modules are never mentions of a class. -/
theorem filterMap_nodeOf?_own (scope : String) (items : List Item) :
    (items.filter (·.className? = none)).filterMap (nodeOf? scope items) =
      items.filterMap (·.ownNode? scope) := by
  rw [List.filterMap_filter]
  refine List.filterMap_congr fun i _ => ?_
  cases hi : i.className? with
  | none => simp [nodeOf?_of_no_className hi]
  | some n => simp [ownNode?_of_className hi]

theorem filter_kind_ne (scope : String) (items js : List Item) :
    (js.filterMap (nodeOf? scope items)).filter (·.kind ≠ .classType) =
      js.filterMap (·.ownNode? scope) := by
  rw [List.filter_filterMap]
  refine List.filterMap_congr fun j _ => ?_
  cases hj : j.className? with
  | some n =>
    rw [nodeOf?_of_className hj, ownNode?_of_className hj]
    rfl
  | none =>
    rw [nodeOf?_of_no_className hj]
    cases hnode : j.ownNode? scope with
    | none => rfl
    | some d => simp [kind_of_ownNode? hnode]

theorem map_name_filter_kind (scope : String) (items js : List Item) :
    ((js.filterMap (nodeOf? scope items)).filter (·.kind = .classType)).map (·.name) =
      js.filterMap (·.className?) := by
  rw [List.filter_filterMap, List.map_filterMap]
  refine List.filterMap_congr fun j _ => ?_
  cases hj : j.className? with
  | some n =>
    rw [nodeOf?_of_className hj]
    rfl
  | none =>
    rw [nodeOf?_of_no_className hj]
    cases hnode : j.ownNode? scope with
    | none => rfl
    | some d => simp [kind_of_ownNode? hnode]

/-- Items that declare nothing leave an outline as it is. -/
theorem declareAll_filter (scope : String) (items : List Item) (o : Outline) :
    declareAll scope o (items.filter (·.isDeclaration)) = declareAll scope o items := by
  induction items generalizing o with
  | nil => rfl
  | cons i items ih =>
    rw [List.filter_cons]
    split
    · rw [declareAll, declareAll, ih]
    · rename_i hi
      have hsame : declareItem scope o i = o := by
        unfold Item.isDeclaration at hi
        split at hi
        · rename_i segments members
          obtain rfl : segments = [] := by simpa using hi
          rw [declareItem]
          rfl
        · rw [declareItem]
        · rw [declareItem]
        · rw [declareItem]
        · exact absurd rfl hi
      rw [declareAll, ih, hsame]

/-! ## What an outline holds -/

/-- Name, kind and symbol of a node in a scope. -/
structure IsNode (scope called : String) (k : Kind) (mentions : List String) (d : Node) : Prop where
  name : d.name = called
  kind : d.kind = k
  qualifiedName : d.symbol.qualifiedName = scope ++ "." ++ called
  references : d.symbol.references = mentions

/-- A node is that of a method of a class. A method without a body mentions nothing. -/
def IsMethodNode (scope className : String) (m : String × Option (List Stmt)) (d : Node) : Prop :=
  IsNode (scope ++ "." ++ className) m.1 .method ((m.2.map references).getD []) d ∧ d.children = []

/-- A node is that of a class, and has the methods that items have for it, in document order. -/
def IsClassNode (scope : String) (items : List Item) (className : String) (d : Node) : Prop :=
  IsNode scope className .classType [] d ∧
    List.Forall₂ (IsMethodNode scope className) (items.flatMap (·.methodsFor className)) d.children

/-- A node is that of an item among items. An inline module has the outline of its own
items inside. -/
def IsNodeOf (scope : String) (items : List Item) : Item → Node → Prop
  | .function name body, d => IsNode scope name .function (references body) d ∧ d.children = []
  | .module name (some content), d =>
    IsNode scope name .module [] d ∧ d.children = declareItems (scope ++ "." ++ name) content
  | i, d => ∃ n, i.className? = some n ∧ IsClassNode scope items n d

theorem isClassNode_classNode (scope : String) (items : List Item) (n : String) :
    IsClassNode scope items n (classNode scope items n) := by
  refine ⟨⟨rfl, rfl, rfl, rfl⟩,
    List.forall₂_map_right_iff.mpr (List.forall₂_same.mpr fun m _ => ?_)⟩
  exact ⟨⟨rfl, rfl, rfl, rfl⟩, rfl⟩

theorem nodeOf?_cases (scope : String) (items : List Item) (i : Item) :
    (i.isDeclaration = true ∧ ∃ d, nodeOf? scope items i = some d ∧ IsNodeOf scope items i d) ∨
    (i.isDeclaration = false ∧ nodeOf? scope items i = none) := by
  cases i with
  | function name body => exact .inl ⟨rfl, _, rfl, ⟨rfl, rfl, rfl, rfl⟩, rfl⟩
  | struct name | enum name | union name =>
    exact .inl ⟨rfl, _, rfl, name, rfl, isClassNode_classNode scope items name⟩
  | trait name members =>
    exact .inl ⟨rfl, _, rfl, name, rfl, isClassNode_classNode scope items name⟩
  | implementation self members =>
    cases self with
    | path segments =>
      rcases List.eq_nil_or_concat' segments with rfl | ⟨before, name, rfl⟩
      · exact .inr ⟨rfl, rfl⟩
      · have hname :
            (Item.implementation (.path (before ++ [name])) members).className? = some name :=
          List.getLast?_concat
        refine .inl ⟨by simp [Item.isDeclaration], _, nodeOf?_of_className hname, name, hname, ?_⟩
        exact isClassNode_classNode scope items name
    | other => exact .inr ⟨rfl, rfl⟩
  | module name content =>
    cases content with
    | some content => exact .inl ⟨rfl, _, rfl, ⟨rfl, rfl, rfl, rfl⟩, rfl⟩
    | none => exact .inr ⟨rfl, rfl⟩
  | other => exact .inr ⟨rfl, rfl⟩

/-- The nodes of items are those of the items that declare something, one by one. -/
theorem forall₂_filterMap_nodeOf? (scope : String) (items js : List Item) :
    List.Forall₂ (IsNodeOf scope items) (js.filter (·.isDeclaration))
      (js.filterMap (nodeOf? scope items)) := by
  induction js with
  | nil => exact .nil
  | cons j js ih =>
    rcases nodeOf?_cases scope items j with ⟨hj, d, hnode, hd⟩ | ⟨hj, hnode⟩
    · rw [List.filter_cons_of_pos hj, List.filterMap_cons_some hnode]
      exact .cons hd ih
    · rwa [List.filter_cons_of_neg (by simp [hj]), List.filterMap_cons_none hnode]

/-- The nodes gather what items declare. -/
structure Gathers (scope : String) (items : List Item) (nodes : List Node) : Prop where
  /-- There is a node for each first mention, in document order. -/
  mentions : List.Forall₂ (IsNodeOf scope items) ((firsts items).filter (·.isDeclaration)) nodes
  /-- Each function and each inline module has its node. -/
  own : List.Forall₂ (IsNodeOf scope items)
    ((items.filter (·.className? = none)).filter (·.isDeclaration))
      (nodes.filter (·.kind ≠ .classType))
  /-- The classes are those that are mentioned, each once, in order of first mention. -/
  classes : (nodes.filter (·.kind = .classType)).map (·.name) =
    (items.filterMap (·.className?)).eraseDups
  /-- A class has the methods that all items have for it. -/
  methods : ∀ d ∈ nodes, d.kind = .classType → IsClassNode scope items d.name d
  /-- All other items might as well be missing. -/
  others : declareItems scope (items.filter (·.isDeclaration)) = nodes

/-- **Classes are gathered without loss.** Whatever items stand in a scope and in whatever order,
each class has one node with all its methods. -/
theorem outline_gathers (scope : String) (items : List Item) :
    Gathers scope items (declareItems scope items) where
  mentions := by
    rw [declareItems_eq]
    exact forall₂_filterMap_nodeOf? scope items (firsts items)
  own := by
    rw [declareItems_eq, outlined, filter_kind_ne, filterMap_ownNode?_firsts,
      ← filterMap_nodeOf?_own scope items]
    exact forall₂_filterMap_nodeOf? scope items _
  classes := by rw [declareItems_eq, outlined, map_name_filter_kind, filterMap_className?_firsts]
  methods d hd hkind := by
    rw [declareItems_eq] at hd
    obtain ⟨j, -, hnode⟩ := List.mem_filterMap.mp hd
    rw [nodeOf?_of_className (className?_of_nodeOf? hnode hkind)] at hnode
    exact Option.some.inj hnode ▸ isClassNode_classNode scope items d.name
  others := congrArg Outline.nodes (declareAll_filter scope items {})

/-- Methods for a class before and after its declaration, a function of the same name in between, an
implementation for what is no path, and a module with a class of the same name. -/
def scatteredItems : List Item := [
  .implementation (.path ["shop", "Cart"]) [.other, .method "add" (some [.expr (.path ["push"])])],
  .function "Cart" [.expr (.path ["Cart", "new"])],
  .struct "Cart",
  .implementation .other [.method "lost" (some [])],
  .module "tests" (some [.enum "Cart"]),
  .module "elsewhere" none,
  .trait "Cart" [.method "drop" none, .other]]

theorem outline_gathers_scattered :
    declareItems "app" scatteredItems =
      [.mk "Cart" .classType ⟨"app.Cart", []⟩
          [.mk "add" .method ⟨"app.Cart.add", ["push"]⟩ [],
            .mk "drop" .method ⟨"app.Cart.drop", []⟩ []],
        .mk "Cart" .function ⟨"app.Cart", ["Cart", "new"]⟩ [],
        .mk "tests" .module ⟨"app.tests", []⟩ [.mk "Cart" .classType ⟨"app.tests.Cart", []⟩ []]] ∧
    Gathers "app" scatteredItems (declareItems "app" scatteredItems) :=
  ⟨rfl, outline_gathers "app" scatteredItems⟩

end CallAtlas.Code
