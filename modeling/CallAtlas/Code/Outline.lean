import CallAtlas.Catalog.Declaration
import CallAtlas.Catalog.Index
import CallAtlas.Code.Grammar
import CallAtlas.Code.References

/-!
# The outline of a Rust source

`outline? source scope` is the tree of what a source declares, in order of first mention. A function
is a node of its own. A type, a trait, or what an implementation is for is a class, and there is one
class for each name : an index says in which slot it stands, and the methods of its trait and of all
its implementations are gathered there in document order. An inline module is a node with its own
outline inside. Nothing else is declared.
-/

namespace CallAtlas.Code

/-- The handle of a declared item : its dotted name and the names its body mentions. -/
structure Symbol where
  qualifiedName : String
  references : List String
  deriving DecidableEq, Repr

/-- A node of an outline. -/
abbrev Node := Declaration Symbol

/-- The symbol of something named `name` in `scope`, with the body it may have. -/
def symbolIn (scope name : String) (body : Option (List Stmt)) : Symbol :=
  ⟨scope ++ "." ++ name, (body.map references).getD []⟩

/-- An outline in the making : the nodes so far, and the slot of each class among them. -/
structure Outline where
  nodes : List Node := []
  classes : Index String Nat := {}

namespace Outline

/-- Add a node after the others. -/
def push (o : Outline) (d : Node) : Outline :=
  { o with nodes := o.nodes ++ [d] }

/-- The slot of a class. A class without one gets a node after the others. -/
def classSlot (o : Outline) (scope className : String) : Outline × Nat :=
  match o.classes.get? className with
  | some slot => (o, slot)
  | none =>
    let o := o.push (.mk className .classType (symbolIn scope className none) [])
    let slot := o.nodes.length - 1
    ({ o with classes := o.classes.insert className slot }, slot)

/-- Add a member to the node in a slot, if it is a method. -/
def addMember (classScope : String) (slot : Nat) (o : Outline) : Member → Outline
  | .method name body =>
    let child : Node := .mk name .method (symbolIn classScope name body) []
    { o with nodes := o.nodes.modify slot (·.withChild child) }
  | .other => o

/-- Add the methods among members to a class. -/
def addToClass (o : Outline) (scope className : String) (members : List Member) : Outline :=
  let (o, slot) := o.classSlot scope className
  members.foldl (addMember (scope ++ "." ++ className) slot) o

end Outline

mutual

/-- Add what an item declares. The class of an implementation is the last step of its path. -/
def declareItem (scope : String) (o : Outline) : Item → Outline
  | .function name body => o.push (.mk name .function (symbolIn scope name (some body)) [])
  | .struct name => (o.classSlot scope name).1
  | .enum name => (o.classSlot scope name).1
  | .union name => (o.classSlot scope name).1
  | .trait name members => o.addToClass scope name members
  | .implementation (.path segments) members =>
    match segments.getLast? with
    | some name => o.addToClass scope name members
    | none => o
  | .implementation .other _ => o
  | .module name (some content) =>
    let children := (declareAll (scope ++ "." ++ name) {} content).nodes
    o.push (.mk name .module (symbolIn scope name none) children)
  | .module _ none => o
  | .other => o

/-- Add what items declare, one after another. -/
def declareAll (scope : String) (o : Outline) : List Item → Outline
  | [] => o
  | i :: is => declareAll scope (declareItem scope o i) is

end

/-- What items declare inside `scope`. -/
def declareItems (scope : String) (items : List Item) : List Node :=
  (declareAll scope {} items).nodes

/-- The tree of what a source declares inside `scope`, or `none` when it is not a Rust source. -/
def outline? (source scope : String) : Option (List Node) :=
  (Item.ofSource? source).map (declareItems scope)

end CallAtlas.Code
