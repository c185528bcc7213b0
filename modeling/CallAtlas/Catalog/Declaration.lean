import CallAtlas.Catalog.Kind

/-!
# Declaration trees

A source declares entities, and entities contain others. Each node carries a `symbol` : what its
body mentions can be asked of it later, without reading the source again.
-/

namespace CallAtlas

/-- A declared entity and the entities inside it. -/
inductive Declaration (σ : Type) where
  | mk (name : String) (kind : Kind) (symbol : σ) (children : List (Declaration σ))

namespace Declaration

variable {σ : Type}

/-- The declared name. -/
def name : Declaration σ → String
  | .mk n _ _ _ => n

/-- What is declared. -/
def kind : Declaration σ → Kind
  | .mk _ k _ _ => k

/-- The handle of the declaration. -/
def symbol : Declaration σ → σ
  | .mk _ _ s _ => s

/-- The declarations inside. -/
def children : Declaration σ → List (Declaration σ)
  | .mk _ _ _ cs => cs

variable (n : String) (k : Kind) (s : σ) (cs : List (Declaration σ))

@[simp] theorem name_mk : (mk n k s cs).name = n := rfl

@[simp] theorem kind_mk : (mk n k s cs).kind = k := rfl

@[simp] theorem symbol_mk : (mk n k s cs).symbol = s := rfl

@[simp] theorem children_mk : (mk n k s cs).children = cs := rfl

/-- A declaration with one more inside, after the others. -/
def withChild : Declaration σ → Declaration σ → Declaration σ
  | .mk n k s cs, d => .mk n k s (cs ++ [d])

mutual

/-- Number of declarations in a tree, its root included. -/
def count : Declaration σ → Nat
  | .mk _ _ _ cs => 1 + countList cs

/-- Number of declarations in a forest. -/
def countList : List (Declaration σ) → Nat
  | [] => 0
  | d :: ds => d.count + countList ds

end

end Declaration

end CallAtlas
