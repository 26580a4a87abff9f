import ApiBindings.Proofs.ConstantPositions
import ApiBindings.Proofs.NameFaults
import ApiBindings.Proofs.ProblemRows
import Mathlib.Data.List.NodupEquivFin

/-!
# The places of problems

A problem says where it is: in which collection, at which position, and under which name.  Every problem of a
document is about the row at its place (`problems_fit`).  The row is there and has the name, and what the problem
says is true of it (`Document.Fits`): a missing value is missing, what is said to be repeated stands there, and so
on.  No constant that was declared is reported as undeclared, even if it stands for nothing.

The checks find their problems in three families, and each family goes through the collections one by one.  Turned
around, the problems at a place are those of its name and those of its row (`mem_problems_iff`), so that one lemma
for each kind of row says what they are.
-/

namespace ApiBindings

set_option autoImplicit false

open Chain

namespace Document

variable (document : Document)

/-! ## Rows by collection -/

/-- The names inside the rows of a collection: of their values, members or parameters. -/
def innerNames : Collection → List (List String)
  | .enums => document.enums.map fun row => row.values.map (·.name)
  | .structs => document.structs.map fun row => row.members.map (·.name)
  | .unions => document.unions.map fun row => row.members.map (·.name)
  | .funcPointers => document.funcPointers.map fun row => row.params.map (·.name)
  | .commands => document.commands.map fun row => row.params.map (·.name)
  | .constants | .handles | .typedefs | .baseTypes => []

/-- What the names inside the rows of a collection are names of. -/
def innerRole? : Collection → Option NameRole
  | .enums => some .enumerant
  | .structs | .unions => some .member
  | .funcPointers | .commands => some .parameter
  | .constants | .handles | .typedefs | .baseTypes => none

/-- The rows of a collection of structs or unions. -/
def aggregates : Collection → List AggregateRow
  | .structs => document.structs
  | .unions => document.unions
  | .constants | .enums | .handles | .typedefs | .baseTypes | .funcPointers | .commands => []

/-- The names of constants or commands with what they are aliases of. -/
def links : Collection → List (String × Option String)
  | .constants => document.constantLinks
  | .commands => document.commandLinks
  | .enums | .structs | .unions | .handles | .typedefs | .baseTypes | .funcPointers => []

/-- Where a name leads among the entities of a collection: from an alias to its target, and from a typedef to the
type that its target names. -/
def next? : Collection → String → Option String
  | .constants, name => (document.registry.constant? name).bind Constant.aliasOf?
  | .typedefs, name => document.registry.checkedStep? name
  | .commands, name => (document.registry.command? name).bind Command.aliasOf
  | .enums, _ | .structs, _ | .unions, _ | .handles, _ | .baseTypes, _ | .funcPointers, _ => none

/-- The rows of a collection with their defects, those of their references among them. -/
def checkedRows : Collection → List (String × List Defect)
  | .constants => document.constants.map fun row =>
      (row.name, row.defects ++ document.registry.constantAliasDefects (document.names .constants) row)
  | .enums => document.enums.map fun row => (row.name, row.defects)
  | .structs => document.structs.map fun row => (row.name, row.defects)
  | .unions => document.unions.map fun row => (row.name, row.unionDefects)
  | .handles => document.handles.map fun row => (row.name, [])
  | .typedefs => document.typedefs.map fun row => (row.name, document.registry.typedefDefects row)
  | .baseTypes => document.baseTypes.map fun row => (row.name, [])
  | .funcPointers => document.funcPointers.map fun row => (row.name, row.pointerDefects)
  | .commands => document.commands.map fun row =>
      (row.name, row.defects ++ document.registry.commandAliasDefects (document.names .commands) row)

variable {document}

theorem map_fst_checkedRows (collection : Collection) :
    (document.checkedRows collection).map Prod.fst = document.names collection := by
  cases collection <;> simp [checkedRows, names, Function.comp_def]

/-- **The problems at a place are those of the collection's names and those of the row.** -/
theorem mem_problems_iff {problem : Problem} :
    problem ∈ document.problems ↔
      problem ∈ nameProblems problem.location.collection (document.names problem.location.collection) ∨
        ∃ defects, (document.checkedRows problem.location.collection)[problem.location.index]? =
          some (problem.location.name, defects) ∧ problem.defect ∈ defects := by
  obtain ⟨⟨collection, index, name⟩, defect⟩ := problem
  have elsewhere : ∀ {other names}, other ≠ collection →
      (⟨⟨collection, index, name⟩, defect⟩ : Problem) ∉ nameProblems other names :=
    fun apart mem => apart (mem_nameProblems mem).1.symm
  cases collection <;>
    simp [problems, allNameProblems, allRowProblems, allReferenceProblems, mem_rowProblems_iff, elsewhere,
      checkedRows, names, and_assoc, and_or_left, exists_or, eq_comm (a := name)]

/-- Only the names of rows lead on. -/
theorem mem_names_of_next? {collection : Collection} {name : String}
    (goesOn : (document.next? collection name).isSome) : name ∈ document.names collection := by
  cases collection with
  | constants =>
      have found := Option.isSome_of_isSome_bind goesOn
      exact (map_name_filterMap_entity? document.constants).subset ((find?_name_isSome_iff name).mp found)
  | typedefs => exact Registry.mem_names_of_checkedStep? goesOn
  | commands =>
      have found := Option.isSome_of_isSome_bind goesOn
      simpa [registry, names, FunctionRow.command] using (find?_name_isSome_iff name).mp found
  | _ => cases goesOn

/-! ## What problems say -/

variable (document) in
/-- What a defect says is true of the row at the place. -/
inductive Fits : Location → Defect → Prop where
  | emptyName {location : Location} (blank : Text.trim location.name.toList = []) :
      Fits location (.emptyName .entity)
  /-- The first position is the one of an earlier row with the same name. -/
  | duplicateName {location : Location} {first : Nat} (earlier : first < location.index)
      (same : (document.names location.collection)[first]? = some location.name) :
      Fits location (.duplicateName first)
  | emptyInnerName {location : Location} {role : NameRole} {inner : List String} {name : String}
      (kind : innerRole? location.collection = some role)
      (inside : (document.innerNames location.collection)[location.index]? = some inner) (mem : name ∈ inner)
      (blank : Text.trim name.toList = []) : Fits location (.emptyName role)
  | duplicateMember {location : Location} {inner : List String} {name : String}
      (inside : (document.innerNames location.collection)[location.index]? = some inner)
      (again : inner.Duplicate name) : Fits location (.duplicateMember name)
  | zeroElementCount {location : Location} {row : AggregateRow} {m : MemberRow}
      (found : (document.aggregates location.collection)[location.index]? = some row) (mem : m ∈ row.members)
      (zero : m.count = 0) : Fits location (.zeroElementCount m.name)
  | emptyUnion {location : Location} (union : location.collection = .unions)
      (found : document.unions[location.index]? = some ⟨location.name, []⟩) : Fits location .emptyUnion
  | invalidBitWidth {location : Location} {row : EnumRow} {bits : UInt8}
      (enumeration : location.collection = .enums) (found : document.enums[location.index]? = some row)
      (declared : row.bitWidth = some bits) (narrow : bits ≠ 32) (wide : bits ≠ 64) :
      Fits location (.invalidBitWidth bits)
  | missingConstantValue {location : Location} {row : ConstantRow} (constant : location.collection = .constants)
      (found : document.constants[location.index]? = some row) (unaliased : row.aliasOf = none)
      (incomplete : row.type = none ∨ row.value = none) : Fits location .missingConstantValue
  | unexpectedAlias {location : Location} {row : FunctionRow} {target : String}
      (pointer : location.collection = .funcPointers)
      (found : document.funcPointers[location.index]? = some row) (aliased : row.aliasOf = some target) :
      Fits location (.unexpectedAlias target)
  /-- The alias leads to a name that no row has. -/
  | unknownAlias {location : Location} {target missing : String}
      (link : (document.links location.collection)[location.index]? = some (location.name, some target))
      (leads : Leads (document.next? location.collection) target missing)
      (undeclared : missing ∉ document.names location.collection) : Fits location (.unknownAlias missing)
  | aliasCycle {location : Location} {target met : String}
      (link : (document.links location.collection)[location.index]? = some (location.name, some target)) :
      Fits location (.aliasCycle met)
  | unknownTypedefTarget {location : Location} {row : Typedef} (typedef : location.collection = .typedefs)
      (found : document.typedefs[location.index]? = some row)
      (undefined : ¬ document.Defines (Types.baseName row.target)) :
      Fits location (.unknownTypedefTarget row.target)
  | typedefCycle {location : Location} {met : String} (typedef : location.collection = .typedefs) :
      Fits location (.typedefCycle met)

end Document

/-! ## Names -/

/-- A name at two positions of a list stands there twice. -/
theorem duplicate_of_getElem? {names : List String} {first index : Nat} {name : String} (earlier : first < index)
    (same : names[first]? = some name) (again : names[index]? = some name) : names.Duplicate name := by
  obtain ⟨_, rfl⟩ := List.getElem?_eq_some_iff.mp same
  obtain ⟨inside, again⟩ := List.getElem?_eq_some_iff.mp again
  exact List.duplicate_iff_exists_distinct_get.mpr ⟨⟨first, _⟩, ⟨index, inside⟩, earlier, rfl, again.symm⟩

/-! ## References -/

/-- The defect of an alias: its chain comes to an undeclared name, or to one that it has met. -/
theorem exists_of_mem_aliasDefects {next : String → Option String} {declared : List String} {name : String}
    {target : Option String} {defect : Defect} (mem : defect ∈ aliasDefects next declared name target) :
    ∃ own, target = some own ∧
      ((∃ missing, Leads next own missing ∧ missing ∉ declared ∧ defect = .unknownAlias missing) ∨
        ∃ met, defect = .aliasCycle met) := by
  rw [aliasDefects, Option.mem_toList, Option.map_eq_some_iff] at mem
  obtain ⟨fault, found, rfl⟩ := mem
  cases fault with
  | undeclared missing =>
      obtain ⟨unknown, own, start, leads⟩ := notMem_of_fault?_eq_undeclared found
      exact ⟨own, start, .inl ⟨missing, leads, unknown, rfl⟩⟩
  | cycle met =>
      cases target with
      | none => simp [fault?] at found
      | some own => exact ⟨own, rfl, .inr ⟨met, rfl⟩⟩

/-! ## Rows -/

namespace Document

variable {document : Document} {location : Location} {defect : Defect}

theorem fits_of_innerNames {role : NameRole} {inner : List String}
    (kind : innerRole? location.collection = some role)
    (inside : (document.innerNames location.collection)[location.index]? = some inner)
    (mem : defect ∈ memberNameDefects role [] inner) : document.Fits location defect := by
  rw [memberNameDefects_eq] at mem
  obtain ⟨⟨index, name, fault⟩, listed, rfl⟩ := List.mem_map.mp mem
  obtain ⟨stands, faulty⟩ := mem_nameFaults_iff.mp listed
  cases faulty with
  | blank empty => exact .emptyInnerName kind inside (List.mem_of_getElem? stands) empty
  | repeated _ earlier same _ => exact .duplicateMember inside (duplicate_of_getElem? earlier same stands)

theorem fits_of_link {target : Option String}
    (link : (document.links location.collection)[location.index]? = some (location.name, target))
    (mem : defect ∈ aliasDefects (document.next? location.collection) (document.names location.collection)
      location.name target) : document.Fits location defect := by
  obtain ⟨own, rfl, ⟨missing, leads, undeclared, rfl⟩ | ⟨met, rfl⟩⟩ := exists_of_mem_aliasDefects mem
  · exact .unknownAlias link leads undeclared
  · exact .aliasCycle link

variable {index : Nat}

theorem fits_of_constant {row : ConstantRow} (found : document.constants[index]? = some row)
    (mem : defect ∈ row.defects ++ document.registry.constantAliasDefects (document.names .constants) row) :
    document.Fits ⟨.constants, index, row.name⟩ defect := by
  rcases List.mem_append.mp mem with mem | mem
  · rw [ConstantRow.defects] at mem
    split at mem
    · next undefined =>
        obtain rfl := List.mem_singleton.mp mem
        obtain ⟨unaliased, incomplete⟩ := not_or.mp (row.definition?_isNone_iff.mp undefined)
        rw [not_and_or] at incomplete
        exact .missingConstantValue rfl found (Option.not_isSome_iff_eq_none.mp unaliased)
          (incomplete.imp Option.not_isSome_iff_eq_none.mp Option.not_isSome_iff_eq_none.mp)
    · cases mem
  · have link : (document.links .constants)[index]? = some (row.name, row.aliasOf) := by
      simp [links, constantLinks, found]
    exact fits_of_link link mem

theorem fits_of_enum {row : EnumRow} (found : document.enums[index]? = some row)
    (mem : defect ∈ row.defects) : document.Fits ⟨.enums, index, row.name⟩ defect := by
  rcases List.mem_append.mp mem with mem | mem
  · split at mem
    · next bits undefined declared =>
        obtain rfl := List.mem_singleton.mp mem
        rw [EnumRow.width?, declared] at undefined
        have narrow : bits ≠ 32 := fun same => by simp [same] at undefined
        have wide : bits ≠ 64 := fun same => by simp [same] at undefined
        exact .invalidBitWidth rfl found declared narrow wide
    · cases mem
  · have inside : (document.innerNames .enums)[index]? = some (row.values.map (·.name)) := by
      simp [innerNames, found]
    exact fits_of_innerNames rfl inside mem

theorem fits_of_aggregate {collection : Collection} {row : AggregateRow}
    (found : (document.aggregates collection)[index]? = some row)
    (mem : defect ∈ row.defects) : document.Fits ⟨collection, index, row.name⟩ defect := by
  rcases List.mem_append.mp mem with mem | mem
  · have kind : innerRole? collection = some .member := by
      cases collection <;> first | rfl | cases found
    have inside : (document.innerNames collection)[index]? = some (row.members.map (·.name)) := by
      cases collection <;> simp_all [aggregates, innerNames]
    exact fits_of_innerNames kind inside mem
  · obtain ⟨m, listed, rfl⟩ := List.mem_map.mp mem
    obtain ⟨listed, zero⟩ := List.mem_filter.mp listed
    exact .zeroElementCount found listed (eq_of_beq zero)

theorem fits_of_union {row : AggregateRow} (found : document.unions[index]? = some row)
    (mem : defect ∈ row.unionDefects) : document.Fits ⟨.unions, index, row.name⟩ defect := by
  rcases List.mem_append.mp mem with mem | mem
  · split at mem
    · next empty =>
        obtain rfl := List.mem_singleton.mp mem
        obtain ⟨name, members⟩ := row
        obtain rfl := List.isEmpty_iff.mp empty
        exact .emptyUnion rfl found
    · cases mem
  · exact fits_of_aggregate found mem

theorem fits_of_typedef {row : Typedef} (found : document.typedefs[index]? = some row)
    (mem : defect ∈ document.registry.typedefDefects row) :
    document.Fits ⟨.typedefs, index, row.name⟩ defect := by
  rw [Registry.typedefDefects] at mem
  split at mem
  · split at mem
    · next met _ =>
        obtain rfl := List.mem_singleton.mp mem
        exact .typedefCycle rfl
    · cases mem
  · next undefined =>
      obtain rfl := List.mem_singleton.mp mem
      exact .unknownTypedefTarget rfl found (mt (definesType_iff _).mpr undefined)

theorem fits_of_pointer {row : FunctionRow} (found : document.funcPointers[index]? = some row)
    (mem : defect ∈ row.pointerDefects) : document.Fits ⟨.funcPointers, index, row.name⟩ defect := by
  rcases List.mem_append.mp mem with mem | mem
  · obtain ⟨target, aliased, rfl⟩ := List.mem_map.mp mem
    exact .unexpectedAlias rfl found (Option.mem_toList.mp aliased)
  · have inside : (document.innerNames .funcPointers)[index]? = some (row.params.map (·.name)) := by
      simp [innerNames, found]
    rw [FunctionRow.defects] at mem
    exact fits_of_innerNames rfl inside mem

theorem fits_of_command {row : FunctionRow} (found : document.commands[index]? = some row)
    (mem : defect ∈ row.defects ++ document.registry.commandAliasDefects (document.names .commands) row) :
    document.Fits ⟨.commands, index, row.name⟩ defect := by
  rcases List.mem_append.mp mem with mem | mem
  · have inside : (document.innerNames .commands)[index]? = some (row.params.map (·.name)) := by
      simp [innerNames, found]
    rw [FunctionRow.defects] at mem
    exact fits_of_innerNames rfl inside mem
  · have link : (document.links .commands)[index]? = some (row.name, row.aliasOf) := by
      simp [links, commandLinks, found]
    exact fits_of_link link mem

/-- What is reported of a row is true of it. -/
theorem fits_of_checkedRow {defects : List Defect}
    (row : (document.checkedRows location.collection)[location.index]? = some (location.name, defects))
    (mem : defect ∈ defects) : document.Fits location defect := by
  obtain ⟨collection, index, name⟩ := location
  cases collection <;> rw [checkedRows, List.getElem?_map, Option.map_eq_some_iff] at row <;>
    obtain ⟨row, found, same⟩ := row <;> cases same
  case constants => exact fits_of_constant found mem
  case enums => exact fits_of_enum found mem
  case structs => exact fits_of_aggregate found mem
  case unions => exact fits_of_union found mem
  case typedefs => exact fits_of_typedef found mem
  case funcPointers => exact fits_of_pointer found mem
  case commands => exact fits_of_command found mem
  all_goals cases mem

/-! ## Problems -/

theorem build_eq_error_iff {problems : List Problem} :
    document.build = .error problems ↔ problems = document.problems ∧ document.problems ≠ [] := by
  rw [build, ne_eq, ← List.isEmpty_iff]
  split
  · next faultless => simp [faultless]
  · next faulty => simp [faulty, eq_comm]

/-- A problem with a name is about a row of that name. -/
theorem fits_of_nameProblem {problem : Problem}
    (mem : problem ∈ nameProblems problem.location.collection (document.names problem.location.collection)) :
    (document.names problem.location.collection)[problem.location.index]? = some problem.location.name ∧
      document.Fits problem.location problem.defect := by
  rw [nameProblems_eq] at mem
  obtain ⟨⟨index, name, fault⟩, mem, same⟩ := List.mem_map.mp mem
  obtain ⟨stands, faulty⟩ := mem_nameFaults_iff.mp mem
  obtain ⟨⟨collection, _, _⟩, _⟩ := problem
  cases same
  refine ⟨stands, ?_⟩
  cases faulty with
  | blank empty => exact .emptyName empty
  | repeated _ earlier same _ => exact .duplicateName earlier same

/-- **Every problem is about the row at its place.** -/
theorem fits_of_mem_problems {problem : Problem} (mem : problem ∈ document.problems) :
    (document.names problem.location.collection)[problem.location.index]? = some problem.location.name ∧
      document.Fits problem.location problem.defect := by
  rcases mem_problems_iff.mp mem with mem | ⟨defects, row, mem⟩
  · exact fits_of_nameProblem mem
  · refine ⟨?_, fits_of_checkedRow row mem⟩
    rw [← map_fst_checkedRows, List.getElem?_map, row]
    rfl

/-- A chain of constants is not reported as leading to an undeclared name if it ends at a declared one. -/
theorem unknownAlias_notMem_problems {index : Nat} {row : ConstantRow} {target last : String}
    (found : document.constants[index]? = some row) (aliased : row.aliasOf = some target)
    (leads : Leads (document.next? .constants) target last) (stop : document.next? .constants last = none)
    (declared : last ∈ document.names .constants) (missing : String) :
    ⟨⟨.constants, index, row.name⟩, .unknownAlias missing⟩ ∉ document.problems := by
  intro mem
  obtain ⟨-, fits⟩ := fits_of_mem_problems mem
  cases fits with
  | unknownAlias link leadsOther undeclared =>
      have own : (document.links .constants)[index]? = some (row.name, some target) := by
        simp [links, constantLinks, found, aliased]
      cases own.symm.trans link
      -- The name that is reported leads nowhere either, and a way has but one last name.
      have nowhere := Option.not_isSome_iff_eq_none.mp (mt mem_names_of_next? undeclared)
      exact undeclared (last_unique leads stop leadsOther nowhere ▸ declared)

end Document

/-- **Every problem of a refused document is about the row at its place.**  The row is there, has the name, and is
as the problem says.  A constant that leads to a declared one is not reported as leading nowhere, even if the
declared one stands for nothing.  And the aliases among the constants can be checked without the rows: next to the
constants the positions of their rows are enough. -/
theorem problems_fit {document : Document} {problems : List Problem} (refused : document.build = .error problems) :
    (∀ problem ∈ problems,
      (document.names problem.location.collection)[problem.location.index]? = some problem.location.name ∧
        document.Fits problem.location problem.defect) ∧
    (∀ (index : Nat) (row : ConstantRow) (target last : String),
      document.constants[index]? = some row → row.aliasOf = some target →
      Leads (document.next? .constants) target last → document.next? .constants last = none →
      last ∈ document.names .constants →
        ∀ missing, ⟨⟨.constants, index, row.name⟩, .unknownAlias missing⟩ ∉ problems) ∧
    List.Forall₂ (fun position constant =>
        ∃ row, document.constants[position]? = some row ∧ row.entity? = some constant)
      document.constantPositions document.registry.constants ∧
    problems = document.allNameProblems ++ document.allRowProblems ++
      (document.constantAliasProblems ++
        rowProblems .commands (·.name)
          (document.registry.commandAliasDefects (document.names .commands)) document.commands ++
        rowProblems .typedefs (·.name) document.registry.typedefDefects document.typedefs) := by
  obtain ⟨rfl, -⟩ := Document.build_eq_error_iff.mp refused
  refine ⟨fun _ mem => Document.fits_of_mem_problems mem, ?_, document.constantPositions_fit, ?_⟩
  · intro index row target last found aliased leads stop declared
    exact Document.unknownAlias_notMem_problems found aliased leads stop declared
  · rw [document.constantAliasProblems_eq_rowProblems]
    rfl

/-- Two constants that stand for nothing in front of three aliases: one of the constants ahead, one of no constant
and one of itself; and a struct and commands with faults of other kinds. -/
def faultyRows : Document :=
  { Document.empty with
    constants := [⟨"SIZE", none, some "4", none⟩, ⟨"LIMIT", some .u32, none, none⟩,
      ⟨"OLD_SIZE", none, none, some "SIZE"⟩, ⟨"OLD_COUNT", none, none, some "COUNT"⟩,
      ⟨"RING", none, none, some "RING"⟩]
    structs := [⟨"Extent", [⟨"width", "uint32_t", 1⟩, ⟨"width", "uint32_t", 0⟩]⟩]
    commands := [⟨"draw", "void", [], none⟩, ⟨"draw", "void", [], none⟩] }

theorem problems_fit_in_faultyRows :
    faultyRows.build = .error
      [⟨⟨.commands, 1, "draw"⟩, .duplicateName 0⟩,
        ⟨⟨.constants, 0, "SIZE"⟩, .missingConstantValue⟩,
        ⟨⟨.constants, 1, "LIMIT"⟩, .missingConstantValue⟩,
        ⟨⟨.structs, 0, "Extent"⟩, .duplicateMember "width"⟩,
        ⟨⟨.structs, 0, "Extent"⟩, .zeroElementCount "width"⟩,
        ⟨⟨.constants, 3, "OLD_COUNT"⟩, .unknownAlias "COUNT"⟩,
        ⟨⟨.constants, 4, "RING"⟩, .aliasCycle "RING"⟩] ∧
    faultyRows.Fits ⟨.constants, 3, "OLD_COUNT"⟩ (.unknownAlias "COUNT") ∧
    (∀ missing, ⟨⟨.constants, 2, "OLD_SIZE"⟩, .unknownAlias missing⟩ ∉ faultyRows.problems) ∧
    faultyRows.constantPositions = [2, 3, 4] := by
  have problems : faultyRows.build = .error faultyRows.problems :=
    Document.build_eq_error_iff.mpr ⟨rfl, by decide +kernel⟩
  obtain ⟨fit, known, -⟩ := problems_fit problems
  refine ⟨problems.trans (congrArg _ (by decide +kernel)), ?_, ?_, by decide +kernel⟩
  · have mem : ⟨⟨.constants, 3, "OLD_COUNT"⟩, .unknownAlias "COUNT"⟩ ∈ faultyRows.problems := by decide +kernel
    exact (fit _ mem).2
  · exact known 2 _ "SIZE" "SIZE" rfl rfl .refl (by decide +kernel) (by decide +kernel)

end ApiBindings
