import ApiBindings.Registry.Basic

/-!
# Sizes of a registry

How many entities of each kind a registry has, and how many of them are special in some way, with the
table that shows these numbers.
-/

namespace ApiBindings

set_option autoImplicit false

/-- The sizes of a registry's collections. -/
structure Stats where
  constants : Nat
  constantAliases : Nat
  enums : Nat
  bitmasks : Nat
  enumerants : Nat
  structs : Nat
  unions : Nat
  handles : Nat
  dispatchableHandles : Nat
  typedefs : Nat
  baseTypes : Nat
  funcPointers : Nat
  commands : Nat
  commandAliases : Nat
  deriving DecidableEq, Repr, Inhabited

/-- The sizes of a registry. -/
def Registry.stats (registry : Registry) : Stats where
  constants := registry.constants.length
  constantAliases := registry.constants.countP (·.aliasOf?.isSome)
  enums := registry.enums.length
  bitmasks := registry.enums.countP (·.kind = .bitmask)
  enumerants := (registry.enums.map (·.values.length)).foldr (· + ·) 0
  structs := registry.structs.length
  unions := registry.unions.length
  handles := registry.handles.length
  dispatchableHandles := registry.handles.countP (·.dispatchable)
  typedefs := registry.typedefs.length
  baseTypes := registry.baseTypes.length
  funcPointers := registry.funcPointers.length
  commands := registry.commands.length
  commandAliases := registry.commands.countP (·.aliasOf.isSome)

namespace Stats

/-- A row of the table: a label, a count, and what a part of the counted is called with its count. -/
structure Row where
  label : String
  count : Nat
  detail : Option (Nat × String)
  deriving DecidableEq, Repr

/-- The rows of the table. -/
def rows (stats : Stats) : List Row :=
  [ ⟨"constants", stats.constants, some (stats.constantAliases, "aliases")⟩,
    ⟨"enums", stats.enums, some (stats.bitmasks, "bitmasks")⟩,
    ⟨"enumerants", stats.enumerants, none⟩,
    ⟨"structs", stats.structs, none⟩,
    ⟨"unions", stats.unions, none⟩,
    ⟨"handles", stats.handles, some (stats.dispatchableHandles, "dispatchable")⟩,
    ⟨"typedefs", stats.typedefs, none⟩,
    ⟨"base types", stats.baseTypes, none⟩,
    ⟨"func pointers", stats.funcPointers, none⟩,
    ⟨"commands", stats.commands, some (stats.commandAliases, "aliases")⟩ ]

/-- Spaces that fill a text up to a width. -/
def padding (width : Nat) (text : String) : String := String.ofList (List.replicate (width - text.length) ' ')

/-- A row as a line: the label 14 wide, the count 6 wide and to the right, then the detail. -/
def Row.line (row : Row) : String :=
  let count := toString row.count
  let detail := match row.detail with
    | some (part, what) => "  (" ++ toString part ++ " " ++ what ++ ")"
    | none => ""
  row.label ++ padding 14 row.label ++ padding 6 count ++ count ++ detail ++ "\n"

/-- The table. -/
def table (stats : Stats) : String := String.join (stats.rows.map Row.line)

end Stats

end ApiBindings
