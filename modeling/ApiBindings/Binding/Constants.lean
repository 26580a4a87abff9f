import ApiBindings.Binding.Identifier
import ApiBindings.Binding.Script
import ApiBindings.Literal
import ApiBindings.Registry.Basic

/-!
# Constants of the emitted code

Every constant becomes one declaration.  An alias is declared with the type of the value it leads to, and
its value is the identifier of the constant it names; a constant whose alias leads to no value is left
out.
-/

namespace ApiBindings.Binding

set_option autoImplicit false

/-- The declaration of a constant. -/
structure ConstantDeclaration where
  name : String
  type : String
  value : String
  deriving DecidableEq, Repr

/-- The declaration as a line. -/
def ConstantDeclaration.text (declaration : ConstantDeclaration) : String :=
  "pub const " ++ declaration.name ++ ": " ++ declaration.type ++ " = " ++ declaration.value ++ ";"

/-- What a constant is declared to be. -/
def definitionText : Definition → String
  | .value type literal => Literal.normalize type literal
  | .synonym target => identifier target

/-- The declaration of a constant of a registry. -/
def constantDeclaration? (registry : Registry) (constant : Constant) : Option ConstantDeclaration :=
  (registry.constantType? constant).map fun type =>
    ⟨identifier constant.name, type.spelling, definitionText constant.definition⟩

/-- The declarations of a registry's constants. -/
def constantDeclarations (registry : Registry) : List ConstantDeclaration :=
  registry.constants.filterMap (constantDeclaration? registry)

/-- The declarations as code. -/
def constantScript (declarations : List ConstantDeclaration) : Script :=
  Script.lines (declarations.map ConstantDeclaration.text)

end ApiBindings.Binding
