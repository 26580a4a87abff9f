import ApiBindings.Registry.ScalarType

/-!
# Registry documents

A registry document lists the entities of an API in nine collections.  The types of this module are
its rows as written: every field that a document may leave out has its default filled in, and nothing
has been checked.  `ApiBindings.Document.Decode` reads them from text and `ApiBindings.Registry.Build`
checks them.
-/

namespace ApiBindings

set_option autoImplicit false

/-! ## Parts that rows share with registry entities -/

/-- Whether an enumeration lists alternatives or bits that combine. -/
inductive EnumKind where
  | plain
  | bitmask
  deriving DecidableEq, Repr, Inhabited

/-- The names of the enumeration kinds in documents. -/
def EnumKind.names : List (String × EnumKind) := [("enum", .plain), ("bitmask", .bitmask)]

/-- A named value of an enumeration. -/
structure Enumerant where
  name : String
  value : Int64
  deriving DecidableEq, Repr, Inhabited

/-- A parameter of a command or of a function pointer type. -/
structure Param where
  name : String
  /-- The type as C spells it. -/
  type : String
  deriving DecidableEq, Repr, Inhabited

/-- An opaque object of the API. -/
structure Handle where
  name : String
  /-- Pointer-sized if set, a 64-bit integer otherwise. -/
  dispatchable : Bool
  deriving DecidableEq, Repr, Inhabited

/-- A name that stands for another type: a typedef, or a row of the base-type table. -/
structure Typedef where
  name : String
  /-- The type it stands for, as C spells it. -/
  target : String
  deriving DecidableEq, Repr, Inhabited

/-! ## Rows -/

/-- A constant row; a well-formed one has an alias, or a type and a value. -/
structure ConstantRow where
  name : String
  type : Option ScalarType
  value : Option String
  aliasOf : Option String
  deriving DecidableEq, Repr, Inhabited

/-- An enumeration row. -/
structure EnumRow where
  name : String
  kind : EnumKind
  bitWidth : Option UInt8
  values : List Enumerant
  deriving DecidableEq, Repr, Inhabited

/-- A member of a struct or union row. -/
structure MemberRow where
  name : String
  type : String
  count : UInt32
  deriving DecidableEq, Repr, Inhabited

/-- A struct or union row. -/
structure AggregateRow where
  name : String
  members : List MemberRow
  deriving DecidableEq, Repr, Inhabited

/-- A row of a function pointer type or of a command. -/
structure FunctionRow where
  name : String
  returnType : String
  params : List Param
  aliasOf : Option String
  deriving DecidableEq, Repr, Inhabited

/-- A registry document. -/
structure Document where
  constants : List ConstantRow
  enums : List EnumRow
  structs : List AggregateRow
  unions : List AggregateRow
  handles : List Handle
  typedefs : List Typedef
  baseTypes : List Typedef
  funcPointers : List FunctionRow
  commands : List FunctionRow
  deriving DecidableEq, Repr, Inhabited

/-- The document without rows. -/
def Document.empty : Document := ⟨[], [], [], [], [], [], [], [], []⟩

end ApiBindings
