import ApiBindings.Registry.Basic

/-!
# From rows to entities

Every row of a document stands for one entity of a registry, in the same position.  The one exception
is a constant with neither an alias nor a typed value, which stands for nothing.  Rows are turned into
entities whether or not they are sound: the registry of a document with problems is what its aliases and
typedefs are checked against.
-/

namespace ApiBindings

set_option autoImplicit false

/-- How a constant row gets its value; an alias wins over a type and a value beside it. -/
def ConstantRow.definition? (row : ConstantRow) : Option Definition :=
  match row.aliasOf, row.type, row.value with
  | some target, _, _ => some (.synonym target)
  | none, some type, some literal => some (.value type literal)
  | none, _, _ => none

/-- The constant of a row. -/
def ConstantRow.entity? (row : ConstantRow) : Option Constant :=
  row.definition?.map (⟨row.name, ·⟩)

/-- The width of an enumeration row, 32 bits unless it says otherwise; none if there is no such width. -/
def EnumRow.width? (row : EnumRow) : Option Width :=
  match row.bitWidth with
  | none => some .w32
  | some bits => if bits = 32 then some .w32 else if bits = 64 then some .w64 else none

/-- The enumeration of a row. -/
def EnumRow.entity (row : EnumRow) : Enumeration :=
  ⟨row.name, row.kind, row.width?.getD .w32, row.values⟩

/-- The member of a row, of one element at least. -/
def MemberRow.entity (row : MemberRow) : Member := ⟨row.name, row.type, max 1 row.count.toNat⟩

/-- The struct or union of a row. -/
def AggregateRow.entity (row : AggregateRow) : Aggregate :=
  ⟨row.name, row.members.map MemberRow.entity⟩

/-- The function pointer type of a row. -/
def FunctionRow.funcPointer (row : FunctionRow) : FuncPointer :=
  ⟨row.name, row.returnType, row.params⟩

/-- The command of a row. -/
def FunctionRow.command (row : FunctionRow) : Command :=
  ⟨row.name, row.returnType, row.params, row.aliasOf⟩

/-- The registry of a document. -/
def Document.registry (document : Document) : Registry where
  constants := document.constants.filterMap ConstantRow.entity?
  enums := document.enums.map EnumRow.entity
  structs := document.structs.map AggregateRow.entity
  unions := document.unions.map AggregateRow.entity
  handles := document.handles
  typedefs := document.typedefs
  baseTypes := document.baseTypes
  funcPointers := document.funcPointers.map FunctionRow.funcPointer
  commands := document.commands.map FunctionRow.command

end ApiBindings
