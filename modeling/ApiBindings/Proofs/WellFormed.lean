import ApiBindings.Proofs.TypedefChains
import ApiBindings.Registry.Build

/-!
# Well-formed documents

What a document must be like to describe a registry, said of its rows alone: names that can be told apart,
rows that are complete, aliases that lead to something that is no alias, and typedefs that lead out of the
typedefs.

A document becomes a registry exactly when it is well formed (`build_ok_iff_wellFormed`).  The parts of the
proof follow the parts of the check: one lemma for each kind of row, and one for each kind of reference.
-/

namespace ApiBindings

set_option autoImplicit false

open Chain

/-! ## Documents without fault -/

/-- A chain of aliases that ends at a declared name which is no alias; `links` gives for every declared
name what it is an alias of. -/
inductive Rooted (links : List (String × Option String)) : String → Prop where
  | root {name : String} : (name, none) ∈ links → Rooted links name
  | link {name target : String} :
      (name, some target) ∈ links → Rooted links target → Rooted links name

namespace Document

variable (document : Document)

/-- The names of a collection's rows. -/
def names : Collection → List String
  | .constants => document.constants.map (·.name)
  | .enums => document.enums.map (·.name)
  | .structs => document.structs.map (·.name)
  | .unions => document.unions.map (·.name)
  | .handles => document.handles.map (·.name)
  | .typedefs => document.typedefs.map (·.name)
  | .baseTypes => document.baseTypes.map (·.name)
  | .funcPointers => document.funcPointers.map (·.name)
  | .commands => document.commands.map (·.name)

/-- The collections whose rows declare types. -/
def typeCollections : List Collection :=
  [.baseTypes, .typedefs, .enums, .structs, .unions, .handles, .funcPointers]

/-- A declared type, a typedef, a base type or a native scalar. -/
def Defines (name : String) : Prop :=
  Types.isPrimitive name = true ∨ ∃ collection ∈ typeCollections, name ∈ document.names collection

/-- From a name, going on to the named types of typedef targets leads to a base type or to a name without
a typedef. -/
inductive Leaves (document : Document) : String → Prop where
  | baseType {name : String} : name ∈ document.names .baseTypes → Leaves document name
  | noTypedef {name : String} : name ∉ document.names .typedefs → Leaves document name
  | typedef {row : Typedef} : row ∈ document.typedefs →
      Leaves document (Types.baseName row.target) → Leaves document row.name

/-- The constants with what they are aliases of. -/
def constantLinks : List (String × Option String) :=
  document.constants.map fun row => (row.name, row.aliasOf)

/-- The commands with what they are aliases of. -/
def commandLinks : List (String × Option String) :=
  document.commands.map fun row => (row.name, row.aliasOf)

/-- Rows that are complete, each on its own. -/
structure SoundRows : Prop where
  /-- A constant is an alias, or has a type and a value. -/
  constants : ∀ row ∈ document.constants, row.aliasOf.isSome ∨ row.type.isSome ∧ row.value.isSome
  /-- The enumerants of an enumeration can be told apart. -/
  enumerants : ∀ row ∈ document.enums, ProperNames (row.values.map (·.name))
  /-- An enumeration is 32 or 64 bits wide. -/
  widths : ∀ row ∈ document.enums,
    row.bitWidth = none ∨ row.bitWidth = some 32 ∨ row.bitWidth = some 64
  /-- The members of a struct or a union can be told apart. -/
  members : ∀ row ∈ document.structs ++ document.unions, ProperNames (row.members.map (·.name))
  /-- A member has one element at least. -/
  counts : ∀ row ∈ document.structs ++ document.unions, ∀ m ∈ row.members, 1 ≤ m.count.toNat
  /-- A union has a member. -/
  unions : ∀ row ∈ document.unions, row.members ≠ []
  /-- The parameters of a function pointer type or a command, aliased or not, can be told apart. -/
  params : ∀ row ∈ document.funcPointers ++ document.commands, ProperNames (row.params.map (·.name))
  /-- A function pointer type is no alias. -/
  pointers : ∀ row ∈ document.funcPointers, row.aliasOf = none

/-- References that lead somewhere. -/
structure SoundReferences : Prop where
  constants : ∀ row ∈ document.constants, ∀ target ∈ row.aliasOf, Rooted document.constantLinks target
  commands : ∀ row ∈ document.commands, ∀ target ∈ row.aliasOf, Rooted document.commandLinks target
  targets : ∀ row ∈ document.typedefs, document.Defines (Types.baseName row.target)
  typedefs : ∀ row ∈ document.typedefs, document.Leaves (Types.baseName row.target)

/-- A document that describes a registry. -/
structure WellFormed : Prop where
  names : ∀ collection, ProperNames (document.names collection)
  rows : document.SoundRows
  references : document.SoundReferences

end Document

/-! ## Problems of rows -/

/-- The rows of a collection have no problems exactly when none of them has a defect. -/
theorem rowProblems_eq_nil_iff {ρ : Type} (collection : Collection) (nameOf : ρ → String)
    (defectsOf : ρ → List Defect) (rows : List ρ) :
    rowProblems collection nameOf defectsOf rows = [] ↔ ∀ row ∈ rows, defectsOf row = [] := by
  rw [rowProblems, List.flatMap_eq_nil_iff]
  simp only [List.map_eq_nil_iff, Prod.forall]
  constructor
  · intro sound row mem
    obtain ⟨index, at_⟩ := List.mem_iff_getElem?.mp mem
    exact sound row index (List.mem_zipIdx_iff_getElem?.mpr at_)
  · intro sound row index mem
    exact sound row (List.mem_of_getElem? (List.mem_zipIdx_iff_getElem?.mp mem))

theorem ConstantRow.definition?_isNone_iff (row : ConstantRow) :
    row.definition?.isNone = true ↔ ¬ (row.aliasOf.isSome ∨ row.type.isSome ∧ row.value.isSome) := by
  unfold definition?
  cases row.aliasOf <;> cases row.type <;> cases row.value <;> simp

theorem ConstantRow.defects_eq_nil_iff (row : ConstantRow) :
    row.defects = [] ↔ row.aliasOf.isSome ∨ row.type.isSome ∧ row.value.isSome := by
  have missing := row.definition?_isNone_iff
  rw [defects]
  split
  · next undefined => simpa using missing.mp undefined
  · next defined => exact iff_of_true rfl (not_not.mp (mt missing.mpr defined))

theorem EnumRow.defects_eq_nil_iff (row : EnumRow) :
    row.defects = [] ↔
      (row.bitWidth = none ∨ row.bitWidth = some 32 ∨ row.bitWidth = some 64) ∧
        ProperNames (row.values.map (·.name)) := by
  rw [defects, List.append_eq_nil_iff, memberNameDefects_eq_nil_iff]
  refine and_congr_left fun _ => ?_
  unfold width?
  cases row.bitWidth with
  | none => simp
  | some bits =>
      by_cases narrow : bits = 32
      · simp [narrow]
      · by_cases wide : bits = 64 <;> simp [narrow, wide]

theorem AggregateRow.defects_eq_nil_iff (row : AggregateRow) :
    row.defects = [] ↔
      ProperNames (row.members.map (·.name)) ∧ ∀ m ∈ row.members, 1 ≤ m.count.toNat := by
  rw [defects, List.append_eq_nil_iff, memberNameDefects_eq_nil_iff, List.map_eq_nil_iff,
    List.filter_eq_nil_iff]
  refine and_congr_right fun _ => forall₂_congr fun m _ => ?_
  rw [beq_iff_eq, ← UInt32.toNat_inj, UInt32.toNat_zero, Nat.one_le_iff_ne_zero]

theorem AggregateRow.unionDefects_eq_nil_iff (row : AggregateRow) :
    row.unionDefects = [] ↔ row.members ≠ [] ∧ row.defects = [] := by
  rw [unionDefects, List.append_eq_nil_iff]
  cases row.members <;> simp

theorem FunctionRow.defects_eq_nil_iff (row : FunctionRow) :
    row.defects = [] ↔ ProperNames (row.params.map (·.name)) :=
  memberNameDefects_eq_nil_iff _ _

theorem FunctionRow.pointerDefects_eq_nil_iff (row : FunctionRow) :
    row.pointerDefects = [] ↔ row.aliasOf = none ∧ ProperNames (row.params.map (·.name)) := by
  rw [pointerDefects, List.append_eq_nil_iff, row.defects_eq_nil_iff]
  cases row.aliasOf <;> simp

/-! ## Problems of references -/

section Aliases

variable {next : String → Option String} {links : List (String × Option String)}

theorem rooted_of_trail
    (follows : ∀ name target, next name = some target ↔ (name, some target) ∈ links)
    {start : Option String} {names : List String} (trail : Trail next start names)
    (declared : ∀ name ∈ names, name ∈ links.map Prod.fst) : ∀ name ∈ start, Rooted links name := by
  induction trail with
  | done => simp
  | @link head names _ ih =>
      intro name same
      obtain rfl : head = name := by simpa using same
      obtain ⟨⟨_, target⟩, mem, rfl⟩ := List.mem_map.mp (declared head List.mem_cons_self)
      cases target with
      | none => exact .root mem
      | some target =>
          refine .link mem (ih ?_ target ((follows _ target).mpr mem))
          exact fun met later => declared met (List.mem_cons_of_mem _ later)

theorem exists_trail_of_rooted (distinct : (links.map Prod.fst).Nodup)
    (follows : ∀ name target, next name = some target ↔ (name, some target) ∈ links)
    {name : String} (rooted : Rooted links name) :
    ∃ names, Trail next (some name) names ∧ ∀ met ∈ names, met ∈ links.map Prod.fst := by
  induction rooted with
  | @root name mem =>
      have stop : next name = none := by
        cases continued : next name with
        | none => rfl
        | some target =>
            have other := (follows name target).mp continued
            cases List.inj_on_of_nodup_map distinct mem other rfl
      refine ⟨[name], .link (stop ▸ .done), fun met only => ?_⟩
      rw [List.mem_singleton.mp only]
      exact List.mem_map_of_mem mem
  | @link name target mem _ ih =>
      obtain ⟨names, trail, declared⟩ := ih
      rw [← (follows name target).mpr mem] at trail
      refine ⟨name :: names, .link trail, List.forall_mem_cons.mpr ⟨?_, declared⟩⟩
      exact List.mem_map_of_mem mem

/-- **An alias has no defect exactly when its target is rooted.** -/
theorem aliasDefects_eq_nil_iff (distinct : (links.map Prod.fst).Nodup)
    (follows : ∀ name target, next name = some target ↔ (name, some target) ∈ links)
    {name : String} {target : Option String} (mem : (name, target) ∈ links) :
    aliasDefects next (links.map Prod.fst) name target = [] ↔ ∀ met ∈ target, Rooted links met := by
  rw [aliasDefects, Option.toList_eq_nil_iff, Option.map_eq_none_iff, fault?_eq_none_iff]
  constructor
  · rintro ⟨names, trail, sound⟩
    exact rooted_of_trail follows trail fun met later => (sound met later).1
  · intro rooted
    cases target with
    | none => exact ⟨[], .done, by simp⟩
    | some target =>
        obtain ⟨names, trail, declared⟩ :=
          exists_trail_of_rooted distinct follows (rooted target rfl)
        refine ⟨names, trail, fun met later => ⟨declared met later, fun passed => ?_⟩⟩
        -- Were the alias itself met, it would lie on a circle.
        obtain rfl := List.mem_singleton.mp passed
        have ends : Ends next target := ⟨names, trail⟩
        have leads := trail.leads_of_mem target rfl met later
        exact (ends.of_leads leads).not_circular ⟨target, (follows _ target).mpr mem, leads⟩

/-- The rows of a collection as aliases: a row has no defect exactly when what it is an alias of is
rooted in the collection. -/
theorem row_aliasDefects_eq_nil_iff {ρ : Type} {nameOf : ρ → String} {aliasOf : ρ → Option String}
    {rows : List ρ} (distinct : (rows.map nameOf).Nodup)
    (follows : ∀ name target, next name = some target ↔
      (name, some target) ∈ rows.map fun row => (nameOf row, aliasOf row))
    {row : ρ} (mem : row ∈ rows) :
    aliasDefects next (rows.map nameOf) (nameOf row) (aliasOf row) = [] ↔
      ∀ target ∈ aliasOf row, Rooted (rows.map fun row => (nameOf row, aliasOf row)) target := by
  have keys : (rows.map fun row => (nameOf row, aliasOf row)).map Prod.fst = rows.map nameOf := by
    rw [List.map_map, Function.comp_def]
  rw [← keys]
  exact aliasDefects_eq_nil_iff (keys ▸ distinct) follows (List.mem_map_of_mem mem)

end Aliases

/-! ## References of a document with proper names -/

/-- The constant of a row has the row's name and is an alias of the same constant. -/
theorem ConstantRow.entity?_eq_some {row : ConstantRow} {constant : Constant}
    (entity : row.entity? = some constant) :
    constant.name = row.name ∧ constant.aliasOf? = row.aliasOf := by
  obtain ⟨definition, defined, rfl⟩ := Option.map_eq_some_iff.mp entity
  refine ⟨rfl, ?_⟩
  cases aliased : row.aliasOf with
  | some target =>
      simp only [definition?, aliased, Option.some.injEq] at defined
      rw [← defined, Constant.aliasOf?]
  | none =>
      cases typed : row.type <;> cases valued : row.value <;>
        simp only [definition?, aliased, typed, valued, reduceCtorEq, Option.some.injEq] at defined
      rw [← defined, Constant.aliasOf?]

namespace Document

variable {document : Document}

theorem map_name_filterMap_entity? (rows : List ConstantRow) :
    ((rows.filterMap ConstantRow.entity?).map (·.name)).Sublist (rows.map (·.name)) := by
  induction rows with
  | nil => exact .slnil
  | cons row rows ih =>
      cases defined : row.definition? with
      | none => simpa [ConstantRow.entity?, defined] using ih.cons row.name
      | some definition => simpa [ConstantRow.entity?, defined] using ih.cons_cons row.name

/-- An alias among the constants leads to what its row names. -/
theorem constant_aliasOf?_eq_some_iff (distinct : (document.names .constants).Nodup)
    (name target : String) :
    (document.registry.constant? name).bind Constant.aliasOf? = some target ↔
      (name, some target) ∈ document.constantLinks := by
  have apart := distinct.sublist (map_name_filterMap_entity? document.constants)
  rw [Option.bind_eq_some_iff, constantLinks, List.mem_map]
  simp only [Registry.constant?, Document.registry, find?_name_eq_some_iff apart, List.mem_filterMap,
    Prod.mk.injEq]
  constructor
  · rintro ⟨constant, ⟨⟨row, mem, entity⟩, rfl⟩, link⟩
    obtain ⟨same, aliasOf⟩ := ConstantRow.entity?_eq_some entity
    exact ⟨row, mem, same.symm, aliasOf ▸ link⟩
  · rintro ⟨row, mem, rfl, link⟩
    refine ⟨⟨row.name, .synonym target⟩, ⟨⟨row, mem, ?_⟩, rfl⟩, rfl⟩
    simp [ConstantRow.entity?, ConstantRow.definition?, link]

theorem command_aliasOf_eq_some_iff (distinct : (document.names .commands).Nodup)
    (name target : String) :
    (document.registry.command? name).bind Command.aliasOf = some target ↔
      (name, some target) ∈ document.commandLinks := by
  have apart : (document.registry.commands.map (·.name)).Nodup := by
    simpa [Document.registry, FunctionRow.command, names, Function.comp_def] using distinct
  rw [Option.bind_eq_some_iff, commandLinks, List.mem_map]
  simp only [Registry.command?, find?_name_eq_some_iff apart, Prod.mk.injEq]
  simp only [Document.registry, List.mem_map]
  constructor
  · rintro ⟨_, ⟨⟨row, mem, rfl⟩, rfl⟩, link⟩
    exact ⟨row, mem, rfl, link⟩
  · rintro ⟨row, mem, rfl, link⟩
    exact ⟨row.command, ⟨⟨row, mem, rfl⟩, rfl⟩, link⟩

theorem definesType_iff (name : String) :
    document.registry.definesType name = true ↔ document.Defines name := by
  simp only [Registry.definesType, Bool.or_eq_true, Registry.baseType?_isSome_iff,
    Registry.typedef?_isSome_iff, Registry.enum?, Registry.struct?, Registry.union?, Registry.handle?,
    Registry.funcPointer?, find?_name_isSome_iff]
  simp only [Defines, typeCollections, List.exists_mem_cons_iff, List.not_mem_nil, false_and,
    exists_const, or_false, or_assoc, names, Document.registry, List.map_map]
  rfl

/-- Leaving the typedefs is coming to the end of the check's walk. -/
theorem leaves_iff_ends (distinct : (document.names .typedefs).Nodup) (name : String) :
    document.Leaves name ↔ Ends document.registry.checkedStep? name := by
  constructor
  · intro leaves
    induction leaves with
    | @baseType name mem =>
        have based := (document.registry.baseType?_isSome_iff name).mpr mem
        refine .of_none ?_
        rw [Registry.checkedStep?, if_pos based]
    | @noTypedef name missing =>
        refine .of_none (Option.not_isSome_iff_eq_none.mp fun goesOn => missing ?_)
        exact Registry.mem_names_of_checkedStep? goesOn
    | @typedef row mem _ ih =>
        have found : document.registry.typedef? row.name = some row :=
          (find?_name_eq_some_iff distinct).mpr ⟨mem, rfl⟩
        cases based : document.registry.baseType? row.name with
        | some scalar => exact .of_none (by rw [Registry.checkedStep?, based]; rfl)
        | none => exact .of_some (Registry.checkedStep?_of_typedef? based found) ih
  · intro ends
    refine ends.induction (motive := document.Leaves) fun name ih => ?_
    cases based : document.registry.baseType? name with
    | some scalar =>
        exact .baseType ((document.registry.baseType?_isSome_iff name).mp (by rw [based]; rfl))
    | none =>
        cases found : document.registry.typedef? name with
        | none =>
            refine .noTypedef fun mem => ?_
            have declared := (document.registry.typedef?_isSome_iff name).mpr mem
            rw [found] at declared
            cases declared
        | some row =>
            obtain ⟨mem, rfl⟩ := mem_of_find?_name found
            exact .typedef mem (ih _ (Registry.checkedStep?_of_typedef? based found))

/-! ## All problems -/

variable (document) in
theorem allNameProblems_eq_nil_iff :
    document.allNameProblems = [] ↔ ∀ collection, ProperNames (document.names collection) := by
  simp only [allNameProblems, List.append_eq_nil_iff, nameProblems_eq_nil_iff]
  constructor
  · rintro ⟨⟨⟨⟨⟨⟨⟨⟨constants, enums⟩, structs⟩, unions⟩, handles⟩, typedefs⟩, baseTypes⟩,
      funcPointers⟩, commands⟩ collection
    cases collection <;> assumption
  · intro proper
    exact ⟨⟨⟨⟨⟨⟨⟨⟨proper .constants, proper .enums⟩, proper .structs⟩, proper .unions⟩,
      proper .handles⟩, proper .typedefs⟩, proper .baseTypes⟩, proper .funcPointers⟩,
      proper .commands⟩

variable (document) in
theorem allRowProblems_eq_nil_iff : document.allRowProblems = [] ↔ document.SoundRows := by
  simp only [allRowProblems, List.append_eq_nil_iff, rowProblems_eq_nil_iff,
    ConstantRow.defects_eq_nil_iff, EnumRow.defects_eq_nil_iff,
    AggregateRow.unionDefects_eq_nil_iff, AggregateRow.defects_eq_nil_iff,
    FunctionRow.defects_eq_nil_iff, FunctionRow.pointerDefects_eq_nil_iff]
  constructor
  · rintro ⟨⟨⟨⟨⟨constants, enums⟩, structs⟩, unions⟩, pointers⟩, commands⟩
    exact {
      constants := constants
      enumerants := fun row mem => (enums row mem).2
      widths := fun row mem => (enums row mem).1
      members := List.forall_mem_append.mpr
        ⟨fun row mem => (structs row mem).1, fun row mem => (unions row mem).2.1⟩
      counts := List.forall_mem_append.mpr
        ⟨fun row mem => (structs row mem).2, fun row mem => (unions row mem).2.2⟩
      unions := fun row mem => (unions row mem).1
      params := List.forall_mem_append.mpr ⟨fun row mem => (pointers row mem).2, commands⟩
      pointers := fun row mem => (pointers row mem).1 }
  · intro sound
    obtain ⟨structMembers, unionMembers⟩ := List.forall_mem_append.mp sound.members
    obtain ⟨structCounts, unionCounts⟩ := List.forall_mem_append.mp sound.counts
    obtain ⟨pointerParams, commandParams⟩ := List.forall_mem_append.mp sound.params
    exact ⟨⟨⟨⟨⟨sound.constants,
      fun row mem => ⟨sound.widths row mem, sound.enumerants row mem⟩⟩,
      fun row mem => ⟨structMembers row mem, structCounts row mem⟩⟩,
      fun row mem => ⟨sound.unions row mem, unionMembers row mem, unionCounts row mem⟩⟩,
      fun row mem => ⟨sound.pointers row mem, pointerParams row mem⟩⟩, commandParams⟩

theorem allReferenceProblems_eq_nil_iff
    (proper : ∀ collection, ProperNames (document.names collection)) :
    document.allReferenceProblems = [] ↔ document.SoundReferences := by
  have constants : ∀ row ∈ document.constants,
      document.registry.constantAliasDefects (document.constants.map (·.name)) row = [] ↔
        ∀ target ∈ row.aliasOf, Rooted document.constantLinks target :=
    fun row mem => row_aliasDefects_eq_nil_iff (proper .constants).distinct
      (constant_aliasOf?_eq_some_iff (proper .constants).distinct) mem
  have commands : ∀ row ∈ document.commands,
      document.registry.commandAliasDefects (document.commands.map (·.name)) row = [] ↔
        ∀ target ∈ row.aliasOf, Rooted document.commandLinks target :=
    fun row mem => row_aliasDefects_eq_nil_iff (proper .commands).distinct
      (command_aliasOf_eq_some_iff (proper .commands).distinct) mem
  have typedefs : ∀ row ∈ document.typedefs, document.registry.typedefDefects row = [] ↔
      document.Defines (Types.baseName row.target) ∧
        document.Leaves (Types.baseName row.target) := by
    intro row mem
    have found : document.registry.typedef? row.name = some row :=
      (find?_name_eq_some_iff (proper .typedefs).distinct).mpr ⟨mem, rfl⟩
    rw [Registry.typedefDefects_eq_nil_iff found, definesType_iff,
      leaves_iff_ends (proper .typedefs).distinct]
  simp only [allReferenceProblems, List.append_eq_nil_iff, rowProblems_eq_nil_iff]
  rw [forall₂_congr constants, forall₂_congr commands, forall₂_congr typedefs]
  constructor
  · rintro ⟨⟨constants, commands⟩, typedefs⟩
    exact ⟨constants, commands, fun row mem => (typedefs row mem).1,
      fun row mem => (typedefs row mem).2⟩
  · intro sound
    exact ⟨⟨sound.constants, sound.commands⟩,
      fun row mem => ⟨sound.targets row mem, sound.typedefs row mem⟩⟩

/-- A document has no problems exactly when it is well formed. -/
theorem problems_eq_nil_iff : document.problems = [] ↔ document.WellFormed := by
  rw [problems, List.append_eq_nil_iff, List.append_eq_nil_iff, allNameProblems_eq_nil_iff,
    allRowProblems_eq_nil_iff]
  constructor
  · rintro ⟨⟨names, rows⟩, references⟩
    exact ⟨names, rows, (allReferenceProblems_eq_nil_iff names).mp references⟩
  · rintro ⟨names, rows, references⟩
    exact ⟨⟨names, rows⟩, (allReferenceProblems_eq_nil_iff names).mpr references⟩

theorem build_eq_ok_iff {registry : Registry} :
    document.build = .ok registry ↔ document.WellFormed ∧ registry = document.registry := by
  rw [build, ← problems_eq_nil_iff, ← List.isEmpty_iff]
  split
  · next sound => simp [sound, eq_comm]
  · next faulty => simp [faulty]

theorem build_of_problems_eq_nil (faultless : document.problems = []) :
    document.build = .ok document.registry :=
  build_eq_ok_iff.mpr ⟨problems_eq_nil_iff.mp faultless, rfl⟩

/-- In a well-formed document the check's walk ends from every name. -/
theorem WellFormed.ends_checkedStep? (sound : document.WellFormed) (name : String) :
    Ends document.registry.checkedStep? name := by
  cases link : document.registry.checkedStep? name with
  | none => exact .of_none link
  | some target =>
      obtain ⟨-, row, found, rfl⟩ := Registry.checkedStep?_eq_some_iff.mp link
      have leaves := sound.references.typedefs row (mem_of_find?_name found).1
      exact .of_some link ((leaves_iff_ends (sound.names .typedefs).distinct _).mp leaves)

/-- **A document becomes a registry exactly when it is well formed.** -/
theorem build_ok_iff_wellFormed (document : Document) :
    (∃ registry, document.build = .ok registry) ↔ document.WellFormed := by
  simp only [build_eq_ok_iff, exists_and_left, exists_eq, and_true]

end Document

end ApiBindings
