import ApiBindings.Registry.Check
import Mathlib.Data.List.Basic

/-!
# The rows that problems are about

A problem of a document comes from one of three families of checks: the names of a collection, the rows
one by one, and the references.  The last two go through the rows of a collection in the same way, so a
problem of theirs is a defect of the row at its position (`mem_rowProblems_iff`); the first one finds
nothing but blank and repeated names (`mem_nameProblems`).

Each family reports problems of the collection that it goes through, so few of them can be about a typedef
(`mem_typedefProblems_iff`).
-/

namespace ApiBindings

set_option autoImplicit false

/-! ## One family -/

/-- A check of rows reports exactly the defects of each row, at its position. -/
theorem mem_rowProblems_iff {ρ : Type} {collection : Collection} {nameOf : ρ → String}
    {defectsOf : ρ → List Defect} {rows : List ρ} {problem : Problem} :
    problem ∈ rowProblems collection nameOf defectsOf rows ↔
      problem.location.collection = collection ∧ ∃ row, rows[problem.location.index]? = some row ∧
        problem.location.name = nameOf row ∧ problem.defect ∈ defectsOf row := by
  obtain ⟨⟨place, index, name⟩, defect⟩ := problem
  simp only [rowProblems, List.mem_flatMap, List.mem_map, Prod.exists, Problem.mk.injEq,
    Location.mk.injEq, List.mem_zipIdx_iff_getElem?]
  constructor
  · rintro ⟨row, _, found, _, mem, ⟨rfl, rfl, rfl⟩, rfl⟩
    exact ⟨rfl, row, found, rfl, mem⟩
  · rintro ⟨rfl, row, found, rfl, mem⟩
    exact ⟨row, index, found, defect, mem, ⟨rfl, rfl, rfl⟩, rfl⟩

theorem mem_nameDefects {index : Nat} {seen : List (String × Nat)} {names : List String}
    {entry : Nat × String × Defect} (mem : entry ∈ nameDefects index seen names) :
    entry.2.2 = .emptyName .entity ∨ ∃ first, entry.2.2 = .duplicateName first := by
  fun_induction nameDefects index seen names with
  | case1 => cases mem
  | case2 index _ name _ _ ih =>
      rcases List.mem_cons.mp mem with rfl | mem
      · exact .inl rfl
      · exact ih mem
  | case3 index _ name _ _ first _ ih =>
      rcases List.mem_cons.mp mem with rfl | mem
      · exact .inr ⟨first, rfl⟩
      · exact ih mem
  | case4 _ _ _ _ _ _ ih => exact ih mem

/-- A check of names reports blank names and repeated ones of its collection only. -/
theorem mem_nameProblems {collection : Collection} {names : List String} {problem : Problem}
    (mem : problem ∈ nameProblems collection names) : problem.location.collection = collection ∧
      (problem.defect = .emptyName .entity ∨ ∃ first, problem.defect = .duplicateName first) := by
  obtain ⟨entry, found, rfl⟩ := List.mem_map.mp mem
  exact ⟨rfl, mem_nameDefects found⟩

/-! ## All families -/

/-- **A problem with a typedef is one of the typedefs' names, or a defect of its reference.** -/
theorem mem_typedefProblems_iff {document : Document} {problem : Problem}
    (typedef : problem.location.collection = .typedefs) :
    problem ∈ document.problems ↔
      problem ∈ nameProblems .typedefs (document.typedefs.map (·.name)) ∨
        ∃ row, document.typedefs[problem.location.index]? = some row ∧
          problem.location.name = row.name ∧ problem.defect ∈ document.registry.typedefDefects row := by
  have elsewhere : ∀ {collection names}, collection ≠ .typedefs →
      problem ∉ nameProblems collection names := by
    intro collection names other mem
    exact other ((mem_nameProblems mem).1.symm.trans typedef)
  simp [Document.problems, Document.allNameProblems, Document.allRowProblems,
    Document.allReferenceProblems, mem_rowProblems_iff, typedef, elsewhere]

end ApiBindings
