import ApiBindings.Proofs.ProblemPlaces

/-!
# Reported cycles

Whoever follows an alias or a typedef looks its target up among the rows, and finds the first row of a name.  The
check of a document goes the same way and reports a cycle where it meets a name again.  A way without an end is
always reported.

The name of the row itself counts as met from the start.  That is right as long as the row is the one found under
its name.  A row of a name that an earlier row has may be reported although the way from its target ends: the way
comes to the name, where the earlier row is found, and goes on from there to its end, or is at its end already
(`cycle_reported_iff`).  Such documents exist (`cycle_reported_on_ending_way`).  In a collection without repeated
names all cycles are real (`cycle_reported_iff_of_nodup`).
-/

namespace ApiBindings

set_option autoImplicit false

open Chain

/-- The defects that speak of a cycle. -/
inductive Defect.IsCycle : Defect → Prop where
  | ofAlias (met : String) : IsCycle (.aliasCycle met)
  | ofTypedef (met : String) : IsCycle (.typedefCycle met)

namespace Document

variable (document : Document)

/-- The names of aliases and typedefs with their targets; the target of a typedef is the type that it names. -/
def targets : Collection → List (String × Option String)
  | .typedefs => document.typedefs.map fun row => (row.name, some (Types.baseName row.target))
  | collection => document.links collection

/-- Under the name of a row another one is found, with another target or with none.  The name of a typedef has to
lead on: where resolution stops, at a base type, no name is met again. -/
def Overshadowed (location : Location) (target : String) : Prop :=
  document.next? location.collection location.name ≠ some target ∧
    (location.collection = .typedefs → (document.next? .typedefs location.name).isSome)

end Document

/-! ## Aliases -/

theorem exists_isCycle_aliasDefects_iff {next : String → Option String} {declared : List String} {name : String}
    {target : Option String} :
    (∃ defect ∈ aliasDefects next declared name target, defect.IsCycle) ↔
      ∃ met, fault? next declared [name] target = some (.cycle met) := by
  simp only [aliasDefects, Option.mem_toList, Option.map_eq_some_iff]
  constructor
  · rintro ⟨_, ⟨fault, found, rfl⟩, cycle⟩
    cases fault with
    | undeclared missing => cases cycle
    | cycle met => exact ⟨met, found⟩
  · rintro ⟨met, found⟩
    exact ⟨_, ⟨_, found, rfl⟩, .ofAlias met⟩

theorem FunctionRow.not_isCycle_of_mem_defects {row : FunctionRow} {defect : Defect} (mem : defect ∈ row.defects) :
    ¬ defect.IsCycle := by
  rw [defects, memberNameDefects_eq] at mem
  obtain ⟨⟨_, _, fault⟩, -, rfl⟩ := List.mem_map.mp mem
  intro cycle
  cases fault <;> cases cycle

theorem ConstantRow.not_isCycle_of_mem_defects {row : ConstantRow} {defect : Defect} (mem : defect ∈ row.defects) :
    ¬ defect.IsCycle := by
  intro cycle
  rw [defects] at mem
  split at mem
  · obtain rfl := List.mem_singleton.mp mem
    cases cycle
  · cases mem

/-! ## Typedefs -/

namespace Registry

variable {registry : Registry} {name target : String}

theorem definesType_of_checkedStep? (goesOn : (registry.checkedStep? name).isSome) :
    registry.definesType name = true := by
  have declared := (registry.typedef?_isSome_iff name).mpr (mem_names_of_checkedStep? goesOn)
  simp [definesType, declared]

theorem exists_isCycle_typedefDefects_iff {typedef : Typedef} :
    (∃ defect ∈ registry.typedefDefects typedef, defect.IsCycle) ↔
      registry.definesType (Types.baseName typedef.target) = true ∧
        ∃ met, fault? registry.typedefNext? (registry.typedefs.map (·.name)) [typedef.name]
          (registry.continuing? (Types.baseName typedef.target)) = some (.cycle met) := by
  rw [typedefDefects]
  by_cases defined : registry.definesType (Types.baseName typedef.target) = true
  · simp only [defined, if_true, true_and]
    constructor
    · rintro ⟨_, mem, cycle⟩
      split at mem
      · next met found => exact ⟨met, found⟩
      · cases mem
    · rintro ⟨met, found⟩
      rw [found]
      exact ⟨_, List.mem_singleton_self _, .ofTypedef met⟩
  · simp only [defined, Bool.false_eq_true, if_false, false_and, iff_false]
    rintro ⟨_, mem, cycle⟩
    obtain rfl := List.mem_singleton.mp mem
    cases cycle

/-- A typedef is reported exactly if the way from the type that its target names has no end or comes to the name
of the typedef and goes on there. -/
theorem typedef_cycle_iff {typedef : Typedef} (declared : typedef.name ∈ registry.typedefs.map (·.name)) :
    (∃ defect ∈ registry.typedefDefects typedef, defect.IsCycle) ↔
      ¬ Ends registry.checkedStep? (Types.baseName typedef.target) ∨
        Leads registry.checkedStep? (Types.baseName typedef.target) typedef.name ∧
          (registry.checkedStep? typedef.name).isSome := by
  rw [exists_isCycle_typedefDefects_iff]
  generalize Types.baseName typedef.target = target
  by_cases goesOn : (registry.checkedStep? target).isSome
  · have counted : ∀ name, (registry.typedefNext? name).isSome → name ∈ registry.typedefs.map (·.name) :=
      fun name link => (registry.typedef?_isSome_iff name).mp (Option.isSome_of_isSome_bind link)
    rw [continuing?_of_checkedStep? goesOn, exists_fault?_eq_cycle_iff counted (by simpa using declared)]
    simp [definesType_of_checkedStep? goesOn, ends_typedefNext?_iff goesOn, leads_typedefNext?_iff goesOn]
  · -- Resolution stops at once, so the way has its end and comes to no other name.
    have stop := Option.not_isSome_iff_eq_none.mp goesOn
    rw [continuing?_of_stop goesOn]
    refine iff_of_false (by simp [fault?]) ?_
    rintro (endless | ⟨leads, onward⟩)
    · exact endless (.of_none stop)
    · exact goesOn (eq_of_leads leads stop ▸ onward)

end Registry

/-! ## Problems -/

namespace Document

variable {document : Document} {location : Location}

/-- An alias is reported exactly if the way from its target has no end or comes to its name. -/
theorem link_cycle_iff {collection : Collection} {name : String} {target : Option String}
    (declared : name ∈ document.names collection) :
    (∃ defect ∈ aliasDefects (document.next? collection) (document.names collection) name target,
        defect.IsCycle) ↔
      ∃ own ∈ target, ¬ Ends (document.next? collection) own ∨ Leads (document.next? collection) own name := by
  rw [exists_isCycle_aliasDefects_iff,
    exists_fault?_eq_cycle_iff (fun _ => mem_names_of_next?) (by simpa using declared)]
  simp

theorem exists_cycle_mem_problems_iff :
    (∃ defect : Defect, defect.IsCycle ∧ ⟨location, defect⟩ ∈ document.problems) ↔
      ∃ defects, (document.checkedRows location.collection)[location.index]? = some (location.name, defects) ∧
        ∃ defect ∈ defects, defect.IsCycle := by
  constructor
  · rintro ⟨defect, cycle, mem⟩
    rcases mem_problems_iff.mp mem with mem | ⟨defects, row, mem⟩
    · rcases (mem_nameProblems mem).2 with rfl | ⟨first, rfl⟩ <;> cases cycle
    · exact ⟨defects, row, defect, mem, cycle⟩
  · rintro ⟨defects, row, defect, mem, cycle⟩
    exact ⟨defect, cycle, mem_problems_iff.mpr (.inr ⟨defects, row, mem⟩)⟩

/-- Where rows are checked as aliases and their other defects are no cycles, a cycle is reported exactly if the way
from a row's target has no end or comes to the name of the row. -/
theorem linked_rows_cycle_iff {ρ : Type} {collection : Collection} {rows : List ρ} {nameOf : ρ → String}
    {aliasOf : ρ → Option String} {own : ρ → List Defect}
    (linked : document.links collection = rows.map fun row => (nameOf row, aliasOf row))
    (plain : ∀ row, ∀ defect ∈ own row, ¬ defect.IsCycle)
    (checked : document.checkedRows collection = rows.map fun row => (nameOf row, own row ++
      aliasDefects (document.next? collection) (document.names collection) (nameOf row) (aliasOf row)))
    (index : Nat) (name : String) :
    (∃ defects, (document.checkedRows collection)[index]? = some (name, defects) ∧
        ∃ defect ∈ defects, defect.IsCycle) ↔
      ∃ target, (document.links collection)[index]? = some (name, some target) ∧
        (¬ Ends (document.next? collection) target ∨ Leads (document.next? collection) target name) := by
  have named : document.names collection = rows.map nameOf := by
    rw [← map_fst_checkedRows, checked, List.map_map]
    rfl
  simp only [checked, linked, List.getElem?_map]
  cases found : rows[index]? with
  | none => simp
  | some row =>
      have declared : nameOf row ∈ document.names collection :=
        named ▸ List.mem_map_of_mem (List.mem_of_getElem? found)
      simp only [Option.map_some, Option.some.injEq, Prod.mk.injEq]
      constructor
      · rintro ⟨_, ⟨rfl, rfl⟩, defect, mem, cycle⟩
        rcases List.mem_append.mp mem with mem | mem
        · exact absurd cycle (plain row defect mem)
        · obtain ⟨target, aliased, way⟩ := (link_cycle_iff declared).mp ⟨defect, mem, cycle⟩
          exact ⟨target, ⟨rfl, aliased⟩, way⟩
      · rintro ⟨target, ⟨rfl, aliased⟩, way⟩
        obtain ⟨defect, mem, cycle⟩ := (link_cycle_iff declared).mpr ⟨target, aliased, way⟩
        exact ⟨_, ⟨rfl, rfl⟩, defect, List.mem_append_right _ mem, cycle⟩

/-- Of the typedefs a cycle is reported exactly if the way from the type that a row's target names has no end, or
comes to the name of the row and goes on there. -/
theorem typedef_rows_cycle_iff (index : Nat) (name : String) :
    (∃ defects, (document.checkedRows .typedefs)[index]? = some (name, defects) ∧
        ∃ defect ∈ defects, defect.IsCycle) ↔
      ∃ target, (document.targets .typedefs)[index]? = some (name, some target) ∧
        (¬ Ends (document.next? .typedefs) target ∨ Leads (document.next? .typedefs) target name ∧
          (document.next? .typedefs name).isSome) := by
  simp only [checkedRows, targets, List.getElem?_map]
  cases found : document.typedefs[index]? with
  | none => simp
  | some row =>
      have declared : row.name ∈ document.registry.typedefs.map (·.name) :=
        List.mem_map_of_mem (List.mem_of_getElem? found)
      have cycle := Registry.typedef_cycle_iff declared
      simp only [Option.map_some, Option.some.injEq, Prod.mk.injEq]
      constructor
      · rintro ⟨_, ⟨rfl, rfl⟩, reported⟩
        exact ⟨_, ⟨rfl, rfl⟩, cycle.mp reported⟩
      · rintro ⟨_, ⟨rfl, rfl⟩, way⟩
        exact ⟨_, ⟨rfl, rfl⟩, cycle.mpr way⟩

/-- Cycles are reported of constants, typedefs and commands only. -/
theorem collection_of_cycle {defect : Defect} (cycle : defect.IsCycle)
    (mem : ⟨location, defect⟩ ∈ document.problems) :
    location.collection = .constants ∨ location.collection = .typedefs ∨ location.collection = .commands := by
  obtain ⟨-, fits⟩ := fits_of_mem_problems mem
  cases cycle with
  | ofAlias met =>
      cases fits with
      | aliasCycle link =>
          obtain ⟨collection, index, name⟩ := location
          cases collection <;> simp [links] at link ⊢
  | ofTypedef met =>
      cases fits with
      | typedefCycle typedef => exact .inr (.inl typedef)

/-- A cycle is reported exactly if the way from a row's target has no end or comes to the name of the row, and for
a typedef goes on there. -/
theorem cycle_iff_endless_or_leads :
    (∃ defect : Defect, defect.IsCycle ∧ ⟨location, defect⟩ ∈ document.problems) ↔
      ∃ target, (document.targets location.collection)[location.index]? = some (location.name, some target) ∧
        (¬ Ends (document.next? location.collection) target ∨
          Leads (document.next? location.collection) target location.name ∧
            (location.collection = .typedefs → (document.next? .typedefs location.name).isSome)) := by
  obtain ⟨collection, index, name⟩ := location
  cases collection with
  | constants =>
      have linked : document.links .constants = document.constants.map fun row => (row.name, row.aliasOf) := rfl
      have cycle := linked_rows_cycle_iff linked (fun _ _ => ConstantRow.not_isCycle_of_mem_defects) rfl index name
      simpa [exists_cycle_mem_problems_iff, targets] using cycle
  | commands =>
      have linked : document.links .commands = document.commands.map fun row => (row.name, row.aliasOf) := rfl
      have cycle := linked_rows_cycle_iff linked (fun _ _ => FunctionRow.not_isCycle_of_mem_defects) rfl index name
      simpa [exists_cycle_mem_problems_iff, targets] using cycle
  | typedefs => simpa [exists_cycle_mem_problems_iff] using typedef_rows_cycle_iff index name
  | _ =>
      refine iff_of_false ?_ (by simp [targets, links])
      rintro ⟨defect, cycle, mem⟩
      simpa using collection_of_cycle cycle mem

/-- In a collection without repeated names no row is overshadowed. -/
theorem not_overshadowed_of_nodup (distinct : (document.names location.collection).Nodup) {target : String}
    (aimed : (document.targets location.collection)[location.index]? = some (location.name, some target)) :
    ¬ document.Overshadowed location target := by
  rintro ⟨other, onward⟩
  obtain ⟨collection, index, name⟩ := location
  have mem := List.mem_of_getElem? aimed
  cases collection with
  | constants => exact other ((constant_aliasOf?_eq_some_iff distinct name target).mpr mem)
  | commands => exact other ((command_aliasOf_eq_some_iff distinct name target).mpr mem)
  | typedefs =>
      obtain ⟨second, link⟩ := Option.isSome_iff_exists.mp (onward rfl)
      obtain ⟨plain, typedef, found, rfl⟩ := Registry.checkedStep?_eq_some_iff.mp link
      obtain ⟨row, listed, same⟩ := List.mem_map.mp mem
      obtain ⟨rfl, rfl⟩ : row.name = name ∧ Types.baseName row.target = target := by simpa using same
      obtain rfl : row = typedef :=
        Option.some.inj (((find?_name_eq_some_iff distinct).mpr ⟨listed, rfl⟩).symm.trans found)
      exact other link
  | _ => simp [targets, links] at mem

/-- **In a collection without repeated names a cycle is reported exactly where the way has no end.** -/
theorem cycle_reported_iff_of_nodup (distinct : (document.names location.collection).Nodup) :
    (∃ defect : Defect, defect.IsCycle ∧ ⟨location, defect⟩ ∈ document.problems) ↔
      ∃ target, (document.targets location.collection)[location.index]? = some (location.name, some target) ∧
        ¬ Ends (document.next? location.collection) target := by
  rw [cycle_iff_endless_or_leads]
  refine exists_congr fun target => and_congr_right fun aimed => or_iff_left_of_imp ?_
  rintro ⟨leads, onward⟩ ends
  exact not_overshadowed_of_nodup distinct aimed ⟨ends.ne_some_of_leads leads, onward⟩

end Document

/-- **A cycle is reported of a row exactly if the way from its target has no end, or comes to the name of the row
where another row is found under it.** -/
theorem cycle_reported_iff (document : Document) (location : Location) :
    (∃ defect : Defect, defect.IsCycle ∧ ⟨location, defect⟩ ∈ document.problems) ↔
      ∃ target, (document.targets location.collection)[location.index]? = some (location.name, some target) ∧
        (¬ Ends (document.next? location.collection) target ∨
          Leads (document.next? location.collection) target location.name ∧
            document.Overshadowed location target) := by
  rw [Document.cycle_iff_endless_or_leads]
  refine exists_congr fun target => and_congr_right fun _ => or_congr_right' fun ends => ?_
  refine and_congr_right fun leads => (and_iff_right ?_).symm
  exact (not_not.mp ends).ne_some_of_leads leads

/-- A constant and a typedef, each with a second row of the same name that leads back to the first one. -/
def overshadowedRows : Document :=
  { Document.empty with
    constants := [⟨"A", some .u32, some "1", none⟩, ⟨"A", none, none, some "B"⟩,
      ⟨"B", none, none, some "A"⟩]
    typedefs := [⟨"a", "int"⟩, ⟨"a", "b"⟩, ⟨"b", "a"⟩] }

/-- Cycles are reported although every way ends. -/
theorem cycle_reported_on_ending_way :
    ∃ document : Document,
      (document.targets .constants)[1]? = some ("A", some "B") ∧ Ends (document.next? .constants) "B" ∧
        ⟨⟨.constants, 1, "A"⟩, .aliasCycle "A"⟩ ∈ document.problems ∧
      (document.targets .typedefs)[1]? = some ("a", some "b") ∧ Ends (document.next? .typedefs) "b" ∧
        ⟨⟨.typedefs, 1, "a"⟩, .typedefCycle "a"⟩ ∈ document.problems := by
  have constants : Ends (overshadowedRows.next? .constants) "B" :=
    ⟨["B", "A"], .link (.link .done)⟩
  have typedefs : Ends (overshadowedRows.next? .typedefs) "b" :=
    ⟨["b", "a", "int"], .link (.link (.link .done))⟩
  exact ⟨overshadowedRows, by decide +kernel, constants, by decide +kernel, by decide +kernel, typedefs,
    by decide +kernel⟩

end ApiBindings
