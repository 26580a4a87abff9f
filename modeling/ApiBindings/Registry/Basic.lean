import ApiBindings.Document.Basic
import ApiBindings.Types.Native

/-!
# Registries

A registry is what a document describes once it is known to be sound: nine collections of entities in
the order of their declaration.  Entities are found by name; where a registry was put together by hand
and a name occurs twice, the first entity of that name is the one that is found.

Type references stay C spellings here, and constant aliases stay names.  Following an alias to the
constant that holds the value is the one walk of this module; following typedefs is the business of
`ApiBindings.Types`.
-/

namespace ApiBindings

set_option autoImplicit false

/-! ## Entities -/

/-- How a constant gets its value. -/
inductive Definition where
  /-- A literal as C writes it, and its type. -/
  | value (type : ScalarType) (literal : String)
  /-- Another name for a constant. -/
  | synonym (target : String)
  deriving DecidableEq, Repr, Inhabited

/-- A named constant. -/
structure Constant where
  name : String
  definition : Definition
  deriving DecidableEq, Repr, Inhabited

/-- The constant that this one is another name for. -/
def Constant.aliasOf? (constant : Constant) : Option String :=
  match constant.definition with
  | .synonym target => some target
  | .value _ _ => none

/-- The size of an enumeration's values. -/
inductive Width where
  | w32
  | w64
  deriving DecidableEq, Repr, Inhabited

/-- The size in bits. -/
def Width.bits : Width → Nat
  | .w32 => 32
  | .w64 => 64

/-- An enumeration; its values may repeat. -/
structure Enumeration where
  name : String
  kind : EnumKind
  width : Width
  values : List Enumerant
  deriving DecidableEq, Repr, Inhabited

/-- A member of a struct or a union. -/
structure Member where
  name : String
  /-- The type as C spells it. -/
  type : String
  /-- The number of elements, one unless the member is an array. -/
  count : Nat
  deriving DecidableEq, Repr, Inhabited

/-- Whether the member is an array of several elements. -/
def Member.isArray (m : Member) : Bool := 1 < m.count

/-- A struct or a union, its members in the order of the layout. -/
structure Aggregate where
  name : String
  members : List Member
  deriving DecidableEq, Repr, Inhabited

/-- A type of pointers to functions. -/
structure FuncPointer where
  name : String
  returnType : String
  params : List Param
  deriving DecidableEq, Repr, Inhabited

/-- A function of the API. -/
structure Command where
  name : String
  returnType : String
  params : List Param
  /-- Set if the command is only another name for a command. -/
  aliasOf : Option String
  deriving DecidableEq, Repr, Inhabited

/-! ## Registries and look-ups -/

/-- The entities of an API. -/
structure Registry where
  constants : List Constant
  enums : List Enumeration
  structs : List Aggregate
  unions : List Aggregate
  handles : List Handle
  typedefs : List Typedef
  baseTypes : List Typedef
  funcPointers : List FuncPointer
  commands : List Command
  deriving DecidableEq, Repr, Inhabited

namespace Registry

variable (registry : Registry) (name : String)

/-- The constant of that name. -/
def constant? : Option Constant := registry.constants.find? (·.name == name)

/-- The enumeration of that name. -/
def enum? : Option Enumeration := registry.enums.find? (·.name == name)

/-- The struct of that name. -/
def struct? : Option Aggregate := registry.structs.find? (·.name == name)

/-- The union of that name. -/
def union? : Option Aggregate := registry.unions.find? (·.name == name)

/-- The handle of that name. -/
def handle? : Option Handle := registry.handles.find? (·.name == name)

/-- The typedef of that name. -/
def typedef? : Option Typedef := registry.typedefs.find? (·.name == name)

/-- The function pointer type of that name. -/
def funcPointer? : Option FuncPointer := registry.funcPointers.find? (·.name == name)

/-- The command of that name. -/
def command? : Option Command := registry.commands.find? (·.name == name)

/-- What the base-type table gives for the name. -/
def baseType? : Option String := (registry.baseTypes.find? (·.name == name)).map (·.target)

/-- Whether the registry accounts for a type of that name: a native scalar, a base type, a typedef or
any other declared type. -/
def definesType : Bool :=
  Types.isPrimitive name || (registry.baseType? name).isSome || (registry.typedef? name).isSome
    || (registry.enum? name).isSome || (registry.struct? name).isSome
    || (registry.union? name).isSome || (registry.handle? name).isSome
    || (registry.funcPointer? name).isSome

/-! ## Constant aliases -/

/-- Follows the alias chain of a constant over at most `links` constants. -/
def aliasRootWithin : (links : Nat) → Constant → Option Constant
  | 0, _ => none
  | links + 1, constant =>
    match constant.aliasOf? with
    | none => some constant
    | some target => (registry.constant? target).bind (aliasRootWithin links)

/-- The constant that holds the value of a constant, which need not belong to the registry. -/
def aliasRoot? (constant : Constant) : Option Constant :=
  registry.aliasRootWithin (registry.constants.length + 1) constant

/-- The type of a constant's value. -/
def constantType? (constant : Constant) : Option ScalarType := do
  match (← registry.aliasRoot? constant).definition with
  | .value type _ => some type
  | .synonym _ => none

end Registry

end ApiBindings
