import ApiBindings.Registry.Basic

/-!
# Resolving type names

A type name resolves to the name that the emitted code is to spell.  A row of the base-type table ends
the walk with its value; a typedef is followed to its target; any other name stands for itself.

A registry that was built has no typedef in a circle, so the walk ends by itself.  For registries put
together by hand it is cut after one step more than there are typedefs.  `resolve` gives the last name
of the walk and `chain` gives all of them.
-/

namespace ApiBindings.Registry

set_option autoImplicit false

variable (registry : Registry)

/-- The last name of a walk of at most `steps` steps. -/
def walk : (steps : Nat) → (name : String) → String
  | 0, name => name
  | steps + 1, name =>
    match registry.baseType? name with
    | some scalar => scalar
    | none =>
      match registry.typedef? name with
      | some typedef => walk steps typedef.target
      | none => name

/-- The names of a walk of at most `steps` steps. -/
def walkNames : (steps : Nat) → (name : String) → List String
  | 0, name => [name]
  | steps + 1, name =>
    match registry.baseType? name with
    | some scalar => [name, scalar]
    | none =>
      match registry.typedef? name with
      | some typedef => name :: walkNames steps typedef.target
      | none => [name]

/-- The number of steps after which a walk is cut. -/
def walkBound : Nat := registry.typedefs.length + 1

/-- The name that a type name resolves to. -/
def resolve (name : String) : String := registry.walk registry.walkBound name

/-- The names passed while a type name is resolved, from the name itself on. -/
def chain (name : String) : List String := registry.walkNames registry.walkBound name

/-- A walk starts with the name it was asked for, also where it is cut at once. -/
theorem head?_walkNames (steps : Nat) (name : String) :
    (registry.walkNames steps name).head? = some name := by
  cases steps with
  | zero => rfl
  | succ steps =>
    rw [walkNames]
    split
    · rfl
    · split <;> rfl

theorem head?_chain (name : String) : (registry.chain name).head? = some name :=
  registry.head?_walkNames registry.walkBound name

end ApiBindings.Registry
