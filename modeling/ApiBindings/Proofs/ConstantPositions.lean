import ApiBindings.Proofs.WellFormed
import Mathlib.Data.List.Forall2

/-!
# Constants and the positions of their rows

A constant row with neither an alias nor a typed value stands for nothing, so the constants behind it are further
ahead in the registry than their rows are in the document.  Next to the constants one may keep the positions of
their rows, and the names of the rows that stand for nothing.

The aliases among the constants can then be checked without the rows: `constantAliasProblems` goes through the
constants and reports each at the position kept for it.  It reports what the check of the rows reports
(`constantAliasProblems_eq_rowProblems`).
-/

namespace ApiBindings

set_option autoImplicit false

namespace Document

variable (document : Document)

/-- The positions of the rows that stand for a constant. -/
def constantPositions : List Nat :=
  (document.constants.zipIdx.filter fun entry => entry.1.entity?.isSome).map (·.2)

/-- The names of the rows that stand for nothing. -/
def undefinedConstants : List String := (document.constants.filter (·.entity?.isNone)).map (·.name)

/-- The problems of the constants as aliases, found by going through the constants and not the rows. -/
def constantAliasProblems : List Problem :=
  (document.constantPositions.zip document.registry.constants).flatMap fun (position, constant) =>
    (aliasDefects (fun name => (document.registry.constant? name).bind Constant.aliasOf?)
        (document.registry.constants.map (·.name) ++ document.undefinedConstants)
        constant.name constant.aliasOf?).map fun defect =>
      ⟨⟨.constants, position, constant.name⟩, defect⟩

end Document

section Positions

variable {ρ κ : Type} (entity? : ρ → Option κ)

/-- Next to the positions of the rows that stand for something, the things are those that the rows stand for. -/
theorem zip_filter_zipIdx (rows : List ρ) (start : Nat) :
    (((rows.zipIdx start).filter fun entry => (entity? entry.1).isSome).map (·.2)).zip (rows.filterMap entity?) =
      (rows.zipIdx start).filterMap fun entry => (entity? entry.1).map (entry.2, ·) := by
  induction rows generalizing start with
  | nil => rfl
  | cons row rows ih => cases stands : entity? row <;> simp [stands, ih]

theorem length_filter_zipIdx (rows : List ρ) (start : Nat) :
    ((rows.zipIdx start).filter fun entry => (entity? entry.1).isSome).length =
      (rows.filterMap entity?).length := by
  induction rows generalizing start with
  | nil => rfl
  | cons row rows ih => cases stands : entity? row <;> simp [stands, ih]

end Positions

/-- Chains depend on which names are declared, not on their order. -/
theorem Chain.fault?_congr (next : String → Option String) {declared others : List String}
    (same : ∀ name, name ∈ declared ↔ name ∈ others) (passed : List String) (target : Option String) :
    fault? next declared passed target = fault? next others passed target := by
  fun_induction fault? next declared passed target with
  | case1 => rw [fault?]
  | case2 passed name known again => rw [fault?, dif_pos ((same name).mp known), dif_pos again]
  | case3 passed name known fresh ih =>
      rw [ih]
      conv_rhs => rw [fault?, dif_pos ((same name).mp known), dif_neg fresh]
  | case4 passed name unknown => rw [fault?, dif_neg (mt (same name).mpr unknown)]

/-- A row that stands for nothing is no alias. -/
theorem ConstantRow.aliasOf_eq_none {row : ConstantRow} (nothing : row.entity? = none) : row.aliasOf = none := by
  rw [entity?, Option.map_eq_none_iff, ← Option.isNone_iff_eq_none, definition?_isNone_iff, not_or] at nothing
  exact Option.not_isSome_iff_eq_none.mp nothing.1

namespace Document

variable (document : Document)

/-- The positions belong to the constants. -/
theorem zip_constantPositions :
    document.constantPositions.zip document.registry.constants =
      document.constants.zipIdx.filterMap fun entry => entry.1.entity?.map (entry.2, ·) :=
  zip_filter_zipIdx ConstantRow.entity? document.constants 0

theorem length_constantPositions : document.constantPositions.length = document.registry.constants.length := by
  rw [constantPositions, List.length_map]
  exact length_filter_zipIdx ConstantRow.entity? document.constants 0

/-- Each constant is the one that the row at its position stands for. -/
theorem constantPositions_fit :
    List.Forall₂ (fun position constant =>
        ∃ row, document.constants[position]? = some row ∧ row.entity? = some constant)
      document.constantPositions document.registry.constants := by
  refine List.forall₂_iff_zip.mpr ⟨document.length_constantPositions, fun {position constant} mem => ?_⟩
  rw [zip_constantPositions, List.mem_filterMap] at mem
  obtain ⟨⟨row, index⟩, inside, same⟩ := mem
  obtain ⟨constant, stands, same⟩ := Option.map_eq_some_iff.mp same
  cases same
  exact ⟨row, List.mem_zipIdx_iff_getElem?.mp inside, stands⟩

/-- The names of the constants and of the rows that stand for nothing are those of all rows. -/
theorem mem_declaredConstants_iff (name : String) :
    name ∈ document.registry.constants.map (·.name) ++ document.undefinedConstants ↔
      name ∈ document.names .constants := by
  rw [List.mem_append, undefinedConstants, names]
  simp only [List.mem_map, registry, List.mem_filterMap, List.mem_filter]
  constructor
  · rintro (⟨constant, ⟨row, mem, stands⟩, rfl⟩ | ⟨row, ⟨mem, -⟩, rfl⟩)
    · exact ⟨row, mem, (ConstantRow.entity?_eq_some stands).1.symm⟩
    · exact ⟨row, mem, rfl⟩
  · rintro ⟨row, mem, rfl⟩
    cases stands : row.entity? with
    | none => exact .inr ⟨row, ⟨mem, by rw [stands]; rfl⟩, rfl⟩
    | some constant =>
        exact .inl ⟨constant, ⟨row, mem, stands⟩, (ConstantRow.entity?_eq_some stands).1⟩

/-- **Going through the constants reports what going through the rows reports,** each problem at the same place. -/
theorem constantAliasProblems_eq_rowProblems :
    document.constantAliasProblems = rowProblems .constants (·.name)
      (document.registry.constantAliasDefects (document.names .constants)) document.constants := by
  rw [constantAliasProblems, zip_constantPositions, rowProblems, List.filterMap_eq_flatMap_toList,
    List.flatMap_assoc]
  have declared := Chain.fault?_congr (fun name => (document.registry.constant? name).bind Constant.aliasOf?)
    document.mem_declaredConstants_iff
  refine List.flatMap_congr fun entry _ => ?_
  obtain ⟨row, position⟩ := entry
  cases stands : row.entity? with
  | none =>
      have unaliased := ConstantRow.aliasOf_eq_none stands
      simp [Registry.constantAliasDefects, aliasDefects, Chain.fault?, unaliased]
  | some constant =>
      obtain ⟨name, aliasOf⟩ := ConstantRow.entity?_eq_some stands
      simp [Registry.constantAliasDefects, aliasDefects, name, aliasOf, declared]

end Document

end ApiBindings
