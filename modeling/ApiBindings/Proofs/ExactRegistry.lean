import ApiBindings.Proofs.NameTable
import ApiBindings.Proofs.WellFormed
import ApiBindings.Registry.Stats
import Mathlib.Data.List.Forall2

/-!
# Registries and the rows they come from

A document that becomes a registry loses nothing on the way (`Document.build_exact`).  Every row stands for one
entity in its own position with its own data (`Document.Describes`), every entity is the one that is found
under its name (`ExactLookup`), and the table of base types holds the rows of base types and nothing else.

The turning of rows into entities is total: it drops constants without a value and puts a default where a width
or a count is out of range, the tables of positions keep the first of two equal names, and the table of base
types keeps the last.  None of this happens to a well-formed document, each time by a part of
`Document.WellFormed` of its own.
-/

namespace ApiBindings

set_option autoImplicit false

/-! ## Rows and their entities -/

/-- The constant of a row: another name if the row has an alias, whatever it has beside it. -/
structure ConstantRow.Describes (row : ConstantRow) (constant : Constant) : Prop where
  name : constant.name = row.name
  synonym : ∀ target ∈ row.aliasOf, constant.definition = .synonym target
  value : row.aliasOf = none → ∃ type ∈ row.type, ∃ literal ∈ row.value,
    constant.definition = .value type literal

/-- The enumeration of a row, 32 bits wide if the row says nothing. -/
structure EnumRow.Describes (row : EnumRow) (enumeration : Enumeration) : Prop where
  name : enumeration.name = row.name
  kind : enumeration.kind = row.kind
  width : enumeration.width.bits = (row.bitWidth.map UInt8.toNat).getD 32
  values : enumeration.values = row.values

structure MemberRow.Describes (row : MemberRow) (m : Member) : Prop where
  name : m.name = row.name
  type : m.type = row.type
  count : m.count = row.count.toNat

structure AggregateRow.Describes (row : AggregateRow) (aggregate : Aggregate) : Prop where
  name : aggregate.name = row.name
  members : List.Forall₂ MemberRow.Describes row.members aggregate.members

structure FunctionRow.DescribesPointer (row : FunctionRow) (pointer : FuncPointer) : Prop where
  name : pointer.name = row.name
  returnType : pointer.returnType = row.returnType
  params : pointer.params = row.params
  /-- There is no alias that the pointer could have lost. -/
  aliasOf : row.aliasOf = none

structure FunctionRow.DescribesCommand (row : FunctionRow) (command : Command) : Prop where
  name : command.name = row.name
  returnType : command.returnType = row.returnType
  params : command.params = row.params
  aliasOf : command.aliasOf = row.aliasOf

/-- A registry with one entity for every row, in the order of the rows. -/
structure Document.Describes (document : Document) (registry : Registry) : Prop where
  constants : List.Forall₂ ConstantRow.Describes document.constants registry.constants
  enums : List.Forall₂ EnumRow.Describes document.enums registry.enums
  structs : List.Forall₂ AggregateRow.Describes document.structs registry.structs
  unions : List.Forall₂ AggregateRow.Describes document.unions registry.unions
  handles : registry.handles = document.handles
  typedefs : registry.typedefs = document.typedefs
  funcPointers : List.Forall₂ FunctionRow.DescribesPointer document.funcPointers registry.funcPointers
  commands : List.Forall₂ FunctionRow.DescribesCommand document.commands registry.commands

theorem ConstantRow.exists_describes {row : ConstantRow}
    (sound : row.aliasOf.isSome ∨ row.type.isSome ∧ row.value.isSome) :
    ∃ constant, row.entity? = some constant ∧ row.Describes constant := by
  cases aliased : row.aliasOf with
  | some target =>
      refine ⟨⟨row.name, .synonym target⟩, by simp [entity?, definition?, aliased], rfl, ?_, ?_⟩
      · intro other same
        rw [aliased, Option.mem_some_iff] at same
        rw [same]
      · intro unaliased
        rw [aliased] at unaliased
        cases unaliased
  | none =>
      have valued : row.type.isSome ∧ row.value.isSome := by simpa [aliased] using sound
      obtain ⟨type, typed⟩ := Option.isSome_iff_exists.mp valued.1
      obtain ⟨literal, written⟩ := Option.isSome_iff_exists.mp valued.2
      refine ⟨⟨row.name, .value type literal⟩, ?_, rfl, ?_, ?_⟩
      · simp [entity?, definition?, aliased, typed, written]
      · intro target same
        rw [aliased] at same
        cases same
      · intro _
        exact ⟨type, typed, literal, written, rfl⟩

theorem EnumRow.describes {row : EnumRow}
    (sound : row.bitWidth = none ∨ row.bitWidth = some 32 ∨ row.bitWidth = some 64) :
    row.Describes row.entity := by
  refine ⟨rfl, rfl, ?_, rfl⟩
  rw [entity, width?]
  rcases sound with same | same | same <;> rw [same] <;> rfl

theorem AggregateRow.describes {row : AggregateRow} (counts : ∀ m ∈ row.members, 1 ≤ m.count.toNat) :
    row.Describes row.entity := by
  refine ⟨rfl, ?_⟩
  rw [entity, List.forall₂_map_right_iff, List.forall₂_same]
  intro m mem
  exact ⟨rfl, rfl, max_eq_right (counts m mem)⟩

theorem forall₂_filterMap {ρ ε : Type} {R : ρ → ε → Prop} {entity? : ρ → Option ε} {rows : List ρ}
    (related : ∀ row ∈ rows, ∃ entity, entity? row = some entity ∧ R row entity) :
    List.Forall₂ R rows (rows.filterMap entity?) := by
  induction rows with
  | nil => exact .nil
  | cons row rows ih =>
      obtain ⟨⟨entity, stands, here⟩, rest⟩ := List.forall_mem_cons.mp related
      rw [List.filterMap_cons_some stands]
      exact .cons here (ih rest)

theorem forall₂_map {ρ ε : Type} {R : ρ → ε → Prop} {entity : ρ → ε} {rows : List ρ}
    (related : ∀ row ∈ rows, R row (entity row)) : List.Forall₂ R rows (rows.map entity) := by
  rw [List.forall₂_map_right_iff, List.forall₂_same]
  exact related

/-- **Every row of a well-formed document stands for one entity, in its own position.** -/
theorem Document.WellFormed.describes {document : Document} (sound : document.WellFormed) :
    document.Describes document.registry where
  constants := forall₂_filterMap fun row mem => ConstantRow.exists_describes (sound.rows.constants row mem)
  enums := forall₂_map fun row mem => EnumRow.describes (sound.rows.widths row mem)
  structs := forall₂_map fun row mem =>
    AggregateRow.describes (sound.rows.counts row (List.mem_append_left _ mem))
  unions := forall₂_map fun row mem =>
    AggregateRow.describes (sound.rows.counts row (List.mem_append_right _ mem))
  handles := rfl
  typedefs := rfl
  funcPointers := forall₂_map fun row mem => ⟨rfl, rfl, rfl, sound.rows.pointers row mem⟩
  commands := forall₂_map fun _ _ => ⟨rfl, rfl, rfl, rfl⟩

/-! ## Look-ups -/

/-- A look-up that goes through a table of positions and finds every entity under its own name; `names` are the
names of the rows. -/
structure ExactLookup {ε : Type} (names : List String) (nameOf : ε → String) (entities : List ε)
    (lookup : String → Option ε) : Prop where
  named : entities.map nameOf = names
  /-- The table gives no position out of range, and none to a name that is not there. -/
  positions : ∀ name position, (namePositions names)[name]? = some position ↔
    ∃ entity, entities[position]? = some entity ∧ nameOf entity = name
  through : ∀ name, lookup name =
    (namePositions names)[name]?.bind fun position => entities[position]?
  found : ∀ (name : String) (position : Nat) (entity : ε), entities[position]? = some entity →
    (lookup name = some entity ↔ nameOf entity = name)
  missing : ∀ name, lookup name = none ↔ name ∉ names

section Lookup

variable {ε : Type} {names : List String} {nameOf : ε → String} {entities : List ε}

theorem getElem?_namePositions_eq_some_iff (distinct : names.Nodup) (name : String) (position : Nat) :
    (namePositions names)[name]? = some position ↔ names[position]? = some name := by
  rw [getElem?_namePositions, List.findIdx?_eq_some_iff_getElem]
  constructor
  · rintro ⟨inside, same, -⟩
    rw [List.getElem?_eq_getElem inside, beq_iff_eq.mp same]
  · intro there
    obtain ⟨inside, same⟩ := List.getElem?_eq_some_iff.mp there
    refine ⟨inside, beq_iff_eq.mpr same, ?_⟩
    intro earlier before again
    -- A name that stands twice would stand at one position.
    have twice : names[earlier] = names[position] := by rw [beq_iff_eq.mp again, same]
    have := (distinct.getElem_inj_iff).mp twice
    omega

theorem ExactLookup.of_find? (named : entities.map nameOf = names) (distinct : names.Nodup)
    {lookup : String → Option ε} (searched : ∀ name, lookup name = entities.find? (nameOf · == name)) :
    ExactLookup names nameOf entities lookup where
  named := named
  positions := by
    intro name position
    rw [getElem?_namePositions_eq_some_iff distinct, ← named, List.getElem?_map, Option.map_eq_some_iff]
  through := by
    intro name
    rw [searched, ← named, find?_eq_bind_namePositions]
  found := by
    intro name position entity there
    rw [searched, find?_name_eq_some_iff (named ▸ distinct)]
    exact and_iff_right (List.mem_of_getElem? there)
  missing := by
    intro name
    rw [searched, ← named, ← find?_name_isSome_iff, Option.not_isSome_iff_eq_none]

end Lookup

/-- The look-ups of a registry, each over the names of its rows. -/
structure Registry.ExactLookups (document : Document) (registry : Registry) : Prop where
  constants : ExactLookup (document.names .constants) (·.name) registry.constants registry.constant?
  enums : ExactLookup (document.names .enums) (·.name) registry.enums registry.enum?
  structs : ExactLookup (document.names .structs) (·.name) registry.structs registry.struct?
  unions : ExactLookup (document.names .unions) (·.name) registry.unions registry.union?
  handles : ExactLookup (document.names .handles) (·.name) registry.handles registry.handle?
  typedefs : ExactLookup (document.names .typedefs) (·.name) registry.typedefs registry.typedef?
  funcPointers : ExactLookup (document.names .funcPointers) (·.name) registry.funcPointers
    registry.funcPointer?
  commands : ExactLookup (document.names .commands) (·.name) registry.commands registry.command?

/-- Entities that their rows describe have the names of the rows. -/
theorem map_nameOf_eq {ρ ε : Type} {R : ρ → ε → Prop} {rowName : ρ → String} {nameOf : ε → String}
    {rows : List ρ} {entities : List ε} (related : List.Forall₂ R rows entities)
    (same : ∀ row entity, R row entity → nameOf entity = rowName row) :
    entities.map nameOf = rows.map rowName := by
  induction related with
  | nil => rfl
  | cons here _ ih => rw [List.map_cons, List.map_cons, ih, same _ _ here]

theorem Document.WellFormed.exactLookups {document : Document} (sound : document.WellFormed) :
    document.registry.ExactLookups document where
  constants := .of_find? (map_nameOf_eq sound.describes.constants fun _ _ row => row.name)
    (sound.names .constants).distinct fun _ => rfl
  enums := .of_find? (map_nameOf_eq sound.describes.enums fun _ _ row => row.name)
    (sound.names .enums).distinct fun _ => rfl
  structs := .of_find? (map_nameOf_eq sound.describes.structs fun _ _ row => row.name)
    (sound.names .structs).distinct fun _ => rfl
  unions := .of_find? (map_nameOf_eq sound.describes.unions fun _ _ row => row.name)
    (sound.names .unions).distinct fun _ => rfl
  handles := .of_find? rfl (sound.names .handles).distinct fun _ => rfl
  typedefs := .of_find? rfl (sound.names .typedefs).distinct fun _ => rfl
  funcPointers := .of_find? (map_nameOf_eq sound.describes.funcPointers fun _ _ row => row.name)
    (sound.names .funcPointers).distinct fun _ => rfl
  commands := .of_find? (map_nameOf_eq sound.describes.commands fun _ _ row => row.name)
    (sound.names .commands).distinct fun _ => rfl

/-! ## Base types -/

section BaseTypes

variable {document : Document} (distinct : (document.names .baseTypes).Nodup)

include distinct

theorem pairwise_baseTypes :
    (document.baseTypes.map fun row => (row.name, row.target)).Pairwise
      fun entry other => (entry.1 == other.1) = false := by
  rw [List.pairwise_map]
  exact (List.pairwise_map.mp distinct).imp beq_false_of_ne

/-- The table of base types gives what the row of a name gives. -/
theorem baseTypeTable_of_mem {row : Typedef} (mem : row ∈ document.baseTypes) :
    document.registry.baseTypeTable[row.name]? = some row.target :=
  Std.HashMap.getElem?_ofList_of_mem (beq_self_eq_true row.name) (pairwise_baseTypes distinct)
    (List.mem_map_of_mem mem)

theorem baseTypeTable_eq_some_iff (name scalar : String) :
    document.registry.baseTypeTable[name]? = some scalar ↔ ⟨name, scalar⟩ ∈ document.baseTypes := by
  refine ⟨?_, baseTypeTable_of_mem distinct⟩
  intro found
  have known : document.registry.baseTypeTable.contains name = true := by
    rw [Std.HashMap.contains_eq_isSome_getElem?, found]
    rfl
  rw [Registry.baseTypeTable, Std.HashMap.contains_ofList, List.contains_iff_mem, List.map_map] at known
  obtain ⟨row, mem, rfl⟩ := List.mem_map.mp known
  have there := baseTypeTable_of_mem distinct mem
  obtain rfl := Option.some.inj (found.symm.trans there)
  exact mem

theorem baseType?_eq_baseTypeTable (name : String) :
    document.registry.baseType? name = document.registry.baseTypeTable[name]? := by
  refine Option.ext fun scalar => ?_
  rw [baseTypeTable_eq_some_iff distinct, Registry.baseType?, Option.map_eq_some_iff]
  simp only [Document.registry, find?_name_eq_some_iff distinct]
  constructor
  · rintro ⟨row, ⟨mem, rfl⟩, rfl⟩
    exact mem
  · intro mem
    exact ⟨_, ⟨mem, rfl⟩, rfl⟩

theorem baseTypeTable_size :
    document.registry.baseTypeTable.size = document.baseTypes.length := by
  have size : document.registry.baseTypeTable.size = _ :=
    Std.HashMap.size_ofList (pairwise_baseTypes distinct)
  rw [size, List.length_map]
  rfl

end BaseTypes

/-! ## Built registries -/

/-- **A build loses, repeats and moves nothing.**  The entities of the registry are those that the rows
describe, one for each row in the order of the rows; each is found under its own name and nothing else is found;
and the base types are the rows of base types, each with the type that its row gives. -/
theorem Document.build_exact {document : Document} {registry : Registry}
    (built : document.build = .ok registry) :
    document.Describes registry ∧ registry.ExactLookups document ∧
    (∀ name scalar, registry.baseTypeTable[name]? = some scalar ↔
      ⟨name, scalar⟩ ∈ document.baseTypes) ∧
    (∀ name, registry.baseType? name = registry.baseTypeTable[name]?) ∧
    registry.baseTypeTable.size = document.baseTypes.length ∧
    registry.stats.baseTypes = registry.baseTypeTable.size := by
  obtain ⟨sound, rfl⟩ := Document.build_eq_ok_iff.mp built
  have distinct := (sound.names .baseTypes).distinct
  exact ⟨sound.describes, sound.exactLookups, baseTypeTable_eq_some_iff distinct,
    baseType?_eq_baseTypeTable distinct, baseTypeTable_size distinct, (baseTypeTable_size distinct).symm⟩

/-- A row or two of every collection: an alias with a type beside it, a wide enumeration, an array. -/
def everyCollection : Document where
  constants := [⟨"COUNT", some .u32, some "8U", none⟩, ⟨"SIZE", some .f32, none, some "COUNT"⟩]
  enums := [⟨"Bits", .bitmask, some 64, [⟨"BIT_A", 1⟩, ⟨"BIT_B", 1⟩]⟩, ⟨"Mode", .plain, none, []⟩]
  structs := [⟨"Pair", [⟨"parts", "Word", 2⟩]⟩]
  unions := [⟨"Either", [⟨"word", "Word", 1⟩, ⟨"pair", "Pair", 1⟩]⟩]
  handles := [⟨"Device", true⟩]
  typedefs := [⟨"Flags", "Word"⟩]
  baseTypes := [⟨"Word", "uint32_t"⟩, ⟨"Size", "uint64_t"⟩]
  funcPointers := [⟨"Callback", "void", [⟨"device", "Device"⟩], none⟩]
  commands := [⟨"open", "Device", [], none⟩, ⟨"openKHR", "Device", [], some "open"⟩]

theorem build_exact_of_everyCollection :
    everyCollection.build = .ok everyCollection.registry ∧
    everyCollection.Describes everyCollection.registry ∧
    everyCollection.registry.ExactLookups everyCollection := by
  have built : everyCollection.build = .ok everyCollection.registry :=
    Document.build_of_problems_eq_nil (by decide +kernel)
  obtain ⟨describes, lookups, -⟩ := Document.build_exact built
  exact ⟨built, describes, lookups⟩

end ApiBindings
