import ApiBindings.Types.Expansion

/-!
# Reports on type names

How a type name resolves, step by step, and the type that it becomes in the emitted code.
-/

namespace ApiBindings

set_option autoImplicit false

/-- The resolution of one type name. -/
structure Resolution where
  name : String
  /-- The names passed on the way, from the name itself on. -/
  chain : List String
  /-- The emitted type. -/
  type : String
  deriving DecidableEq, Repr

/-- The resolution as a line of text. -/
def Resolution.text (resolution : Resolution) : String :=
  " -> ".intercalate resolution.chain ++ " => " ++ resolution.type

/-- The resolutions of type names, in their order. -/
def resolutions (registry : Registry) (names : List String) : List Resolution :=
  let reports : Resolving (List Resolution) := names.mapM fun name =>
    return ⟨name, registry.chain name, ← Types.emittedType registry name⟩
  (reports.run registry.resolve .empty).1

end ApiBindings
