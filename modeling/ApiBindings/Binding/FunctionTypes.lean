import ApiBindings.Binding.Script
import ApiBindings.Types.Expansion

/-!
# Function pointer types of the emitted code

Every function pointer type becomes an optional function type under its name.  Its parameters keep their
names and order; each of them stands on a line of its own.
-/

namespace ApiBindings.Binding

set_option autoImplicit false

/-- A parameter in the emitted code. -/
structure EmittedParam where
  name : String
  type : String
  deriving DecidableEq, Repr

/-- The parameter as it is declared. -/
def EmittedParam.text (param : EmittedParam) : String := param.name ++ ": " ++ param.type

/-- The parameters of a function in the emitted code. -/
def emittedParams (registry : Registry) (params : List Param) : Resolving (List EmittedParam) :=
  params.mapM fun param => return ⟨identifier param.name, ← Types.emittedType registry param.type⟩

/-- The declaration of a function pointer type. -/
structure FunctionType where
  name : String
  params : List EmittedParam
  /-- What follows the parameters. -/
  result : String
  deriving DecidableEq, Repr

/-- The declaration of a function pointer type of a registry. -/
def functionType (registry : Registry) (pointer : FuncPointer) : Resolving FunctionType := do
  let result ← Types.returnSuffix registry pointer.returnType
  let params ← emittedParams registry pointer.params
  return ⟨identifier pointer.name, params, result⟩

/-- The declaration as code. -/
def FunctionType.script (type : FunctionType) : Script :=
  let head := "pub type " ++ type.name ++ " = Option<"
  if type.params.isEmpty then
    [.line (head ++ "unsafe extern \"system\" fn()" ++ type.result ++ ">;")]
  else
    Script.block head
      (Script.block "unsafe extern \"system\" fn("
        (Script.lines (type.params.map fun param => param.text ++ ","))
        (")" ++ type.result ++ ","))
      ">;"

/-- The declarations of a registry's function pointer types. -/
def functionTypes (registry : Registry) : Resolving (List FunctionType) :=
  registry.funcPointers.mapM (functionType registry)

end ApiBindings.Binding
