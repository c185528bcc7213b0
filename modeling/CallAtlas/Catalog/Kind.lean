/-!
# Kinds of entities

An entity is a module, a class, a function or a method. A class is any type that owns methods.
Functions and methods are executable : they have a body that can call others.
-/

namespace CallAtlas

/-- What an entity is. -/
inductive Kind where
  | module
  | classType
  | function
  | method
  deriving DecidableEq, Repr

namespace Kind

/-- All kinds. -/
def all : List Kind :=
  [.module, .classType, .function, .method]

/-- The word for a kind. -/
def name : Kind → String
  | .module => "module"
  | .classType => "class"
  | .function => "function"
  | .method => "method"

/-- The kind with the given word. -/
def ofName? (s : String) : Option Kind :=
  all.find? (·.name = s)

/-- What is written after the name of an entity of this kind. -/
def decoration : Kind → String
  | .module => ""
  | .classType => ":"
  | .function => "()"
  | .method => ""

/-- Whether an entity of this kind has a body. -/
def isExecutable : Kind → Bool
  | .module => false
  | .classType => false
  | .function => true
  | .method => true

theorem isExecutable_iff {k : Kind} : k.isExecutable = true ↔ k = .function ∨ k = .method := by
  cases k <;> simp [isExecutable]

/-- Every kind is found by its word. -/
@[simp]
theorem ofName?_name (k : Kind) : ofName? k.name = some k := by
  cases k <;> decide

end Kind

end CallAtlas
