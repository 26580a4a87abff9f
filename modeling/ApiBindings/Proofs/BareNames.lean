import ApiBindings.Proofs.Unfolding

/-!
# Registries whose types are named by bare words

Nothing keeps a document from declaring a type whose name holds a star or a qualifier.  Where none does,
the named type of every typedef's target is a bare word as well, since it is declared or native.  Following
rows from a name without a base type is then what the check of typedefs does (`rowStep?_eq_checkedStep?`),
and the rows can only run in a circle that passes through a base type (`ends_rowStep?_iff`).
-/

namespace ApiBindings

set_option autoImplicit false

open Chain ApiBindings.Types

namespace Registry

variable (registry : Registry)

/-- The names that a registry declares as types. -/
def typeNames : List String :=
  registry.baseTypes.map (·.name) ++ registry.typedefs.map (·.name) ++ registry.enums.map (·.name)
    ++ registry.structs.map (·.name) ++ registry.unions.map (·.name) ++ registry.handles.map (·.name)
    ++ registry.funcPointers.map (·.name)

/-- A defined type is a native scalar or declared. -/
theorem definesType_iff_mem_typeNames (name : String) :
    registry.definesType name = true ↔ isPrimitive name = true ∨ name ∈ registry.typeNames := by
  simp only [definesType, Bool.or_eq_true, baseType?_isSome_iff, typedef?_isSome_iff, enum?, struct?,
    union?, handle?, funcPointer?, find?_name_isSome_iff, typeNames, List.mem_append, or_assoc]

/-- A base type that is met on the way and whose value leads back to it. -/
def BaseTypeCircle (name : String) : Prop :=
  ∃ met, Leads registry.rowStep? name met ∧ (registry.baseType? met).isSome ∧
    Circular registry.rowStep? met

variable {registry}

theorem mem_typeNames_of_rowStep? {name : String} (link : (registry.rowStep? name).isSome) :
    name ∈ registry.typeNames := by
  have mem := mem_names_of_rowStep? link
  simp only [typeNames, List.append_assoc]
  rw [← List.append_assoc]
  exact List.mem_append_left _ mem

end Registry

namespace Document.WellFormed

open Registry

variable {document : Document} (sound : document.WellFormed)
include sound

theorem typedef?_of_mem {typedef : Typedef} (mem : typedef ∈ document.typedefs) :
    document.registry.typedef? typedef.name = some typedef :=
  (find?_name_eq_some_iff (sound.names .typedefs).distinct).mpr ⟨mem, rfl⟩

theorem baseType?_of_mem {row : Typedef} (mem : row ∈ document.baseTypes) :
    document.registry.baseType? row.name = some row.target :=
  Option.map_eq_some_iff.mpr
    ⟨row, (find?_name_eq_some_iff (sound.names .baseTypes).distinct).mpr ⟨mem, rfl⟩, rfl⟩

section Bare

variable (bare : ∀ name ∈ document.registry.typeNames, BareWord name)
include bare

theorem bareWord_baseName {typedef : Typedef} (mem : typedef ∈ document.typedefs) :
    BareWord (baseName typedef.target) := by
  have defined := (Document.definesType_iff _).mpr (sound.references.targets typedef mem)
  rcases (definesType_iff_mem_typeNames _ _).mp defined with native | declared
  · exact bareWord_of_isPrimitive native
  · exact bare _ declared

/-- The row of a typedef leads to where the check of typedefs goes on. -/
theorem rowStep?_eq_checkedStep? {name : String}
    (plain : document.registry.baseType? name = none) :
    document.registry.rowStep? name = document.registry.checkedStep? name := by
  cases found : document.registry.typedef? name with
  | none =>
      rw [rowStep?_eq_none_iff.mpr (rowOf?_eq_none_iff.mpr ⟨plain, found⟩), checkedStep?, plain, found]
      rfl
  | some typedef =>
      have named := sound.bareWord_baseName bare (mem_of_find?_name found).1
      rw [rowStep?_of_rowOf? (rowOf?_of_typedef? plain found), checkedStep?_of_typedef? plain found,
        base_parse_of_bareWord named]

/-- **The rows come to an end from a name exactly when they lead into no circle through a base type.** -/
theorem ends_rowStep?_iff (name : String) :
    Ends document.registry.rowStep? name ↔ ¬ document.registry.BaseTypeCircle name := by
  constructor
  · rintro ends ⟨met, leads, -, circular⟩
    exact (ends.of_leads leads).not_circular circular
  · intro open_
    refine (ends_iff_not_circular fun _ => mem_names_of_rowStep?).mpr fun met reached circular => ?_
    -- Without a base type on it the circle would be one of the check's walk.
    have same : ∀ further, Leads document.registry.rowStep? met further →
        document.registry.rowStep? further = document.registry.checkedStep? further := by
      intro further leads
      cases based : document.registry.baseType? further with
      | none => exact sound.rowStep?_eq_checkedStep? bare based
      | some scalar =>
          refine absurd ⟨further, reached.trans leads, by rw [based]; rfl, ?_⟩ open_
          exact circular.of_leads leads
    exact ((sound.ends_checkedStep? met).congr same).not_circular circular

/-- A typedef whose target is looked up as it is written is checked as it is walked, so that every walk
ends. -/
theorem ends_walkStep? (name : String) : Ends document.registry.walkStep? name := by
  refine (ends_walkStep?_iff sound.ends_checkedStep? name).mpr ?_
  rintro ⟨typedef, mem, -, -, back, otherwise⟩
  have declared : (document.registry.typedef? typedef.target).isSome := by
    rcases Relation.ReflTransGen.cases_head back with same | ⟨target, link, -⟩
    · rw [same, sound.typedef?_of_mem mem]
      rfl
    · obtain ⟨-, _, found, -⟩ := walkStep?_eq_some_iff.mp link
      rw [found]
      rfl
  have row : (document.registry.rowStep? typedef.target).isSome := by
    rw [rowStep?, rowOf?, Option.isSome_map, Option.isSome_or, Option.isSome_map, declared, Bool.or_true]
  exact otherwise (bare _ (mem_typeNames_of_rowStep? row)).baseName

/-- Where the base types are written in terms of bare words as well, the rows are bare. -/
theorem bareRows
    (values : ∀ row ∈ document.registry.baseTypes, BareWord (Spelling.parse row.target).base) :
    document.registry.BareRows where
  name row := bare _ (mem_typeNames_of_rowStep? (by rw [rowStep?_of_rowOf? row]; rfl))
  value {name value} row := by
    cases based : document.registry.baseType? name with
    | some scalar =>
        cases row.symm.trans (rowOf?_of_baseType? based)
        obtain ⟨found, mem, rfl⟩ := Option.map_eq_some_iff.mp based
        exact values found (List.mem_of_find?_eq_some mem)
    | none =>
        cases found : document.registry.typedef? name with
        | none => cases row.symm.trans (rowOf?_eq_none_iff.mpr ⟨based, found⟩)
        | some typedef =>
            cases row.symm.trans (rowOf?_of_typedef? based found)
            have named := sound.bareWord_baseName bare (mem_of_find?_name found).1
            rw [base_parse_of_bareWord named]
            exact named
  ends := sound.ends_walkStep? bare

end Bare

end Document.WellFormed

end ApiBindings
