import ApiBindings.Binding.Identifier
import ApiBindings.Types.Resolve
import ApiBindings.Types.Resolving
import ApiBindings.Types.Spelling

/-!
# Types of the emitted code

A C type spelling is emitted as the named type that its typedefs and base types lead to, under all the
pointer levels met on the way.  What a name resolves to is a spelling again, which may be a pointer and
whose named type may resolve further, so the expansion goes on until the named type stays the same.

Pointer levels of the resolved name lie inside those written in the spelling: a typedef of `void*` used
as `T*` is a pointer to a pointer.
-/

namespace ApiBindings.Types

set_option autoImplicit false

/-! ## Expansion -/

/-- Resolves the named type of a spelling, and of what it leads to, `steps` times at most. -/
def Spelling.expandWithin : (steps : Nat) → Spelling → Resolving Spelling
  | 0, spelling => return spelling
  | steps + 1, spelling => do
    let inner := parse (← Resolving.resolution spelling.base)
    let next : Spelling := ⟨inner.base, inner.levels ++ spelling.levels⟩
    if inner.base = spelling.base then return next else next.expandWithin steps

/-- The number of times a named type is resolved at most. -/
def expansionBound (registry : Registry) : Nat :=
  registry.typedefs.length + registry.baseTypes.length + 1

/-- The named type and the pointer levels that a C spelling leads to. -/
def expand (registry : Registry) (spelling : String) : Resolving Spelling :=
  (Spelling.parse spelling).expandWithin (expansionBound registry)

/-! ## Spelling in the emitted code -/

/-- A named type in the emitted code: a scalar's own spelling, or an identifier. -/
def namedType (name : String) : String := (scalarSpelling? name).getD (Binding.identifier name)

/-- A type under one pointer level. -/
def pointerTo (pointeeIsConst : Bool) (type : String) : String :=
  (if pointeeIsConst then "*const " else "*mut ") ++ type

/-- A type in the emitted code, its pointer levels innermost first around the named type. -/
def Spelling.emitted (spelling : Spelling) : String :=
  spelling.levels.foldl (fun type pointeeIsConst => pointerTo pointeeIsConst type)
    (namedType spelling.base)

/-- Whether a type is no type of a value. -/
def Spelling.isVoid (spelling : Spelling) : Bool := spelling.levels.isEmpty && spelling.base == "void"

/-- The emitted type of a C spelling. -/
def emittedType (registry : Registry) (spelling : String) : Resolving String :=
  return (← expand registry spelling).emitted

/-- Whether a C spelling leads to no type of a value. -/
def isVoid (registry : Registry) (spelling : String) : Resolving Bool :=
  return (← expand registry spelling).isVoid

/-- What follows the parameters of a function with that return type. -/
def returnSuffix (registry : Registry) (spelling : String) : Resolving String := do
  let type ← expand registry spelling
  return if type.isVoid then "" else " -> " ++ type.emitted

end ApiBindings.Types
