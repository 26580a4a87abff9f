import ApiBindings.Proofs.ProperNames
import ApiBindings.Proofs.Trail

/-!
# Chains of typedefs

Two walks follow the typedefs of a registry.  The check of a document goes from a typedef to the named
type of its target, without qualifiers and stars (`checkedStep?`).  Resolution goes to the target as it is
written (`walkStep?`).  Both stop at a name with a row in the base-type table and at a name without a
typedef.

The check accepts a typedef exactly when its target names a type that is defined and the first walk ends
from there (`typedefDefects_eq_nil_iff`).  The step that it takes looks one name ahead (`typedefNext?`), and leads
as far as the first walk does (`leads_typedefNext?_iff`, `ends_typedefNext?_iff`).
-/

namespace ApiBindings.Registry

set_option autoImplicit false

open Chain

variable (registry : Registry)

/-! ## The two walks -/

/-- Where the check of typedefs goes on from a name: the named type of its typedef's target. -/
def checkedStep? (name : String) : Option String :=
  if (registry.baseType? name).isSome then none
  else (registry.typedef? name).map fun typedef => Types.baseName typedef.target

/-- Where resolution goes on from a name: the target of its typedef as it is written. -/
def walkStep? (name : String) : Option String :=
  if (registry.baseType? name).isSome then none
  else (registry.typedef? name).map fun typedef => typedef.target

variable {registry} {name target : String}

theorem checkedStep?_eq_some_iff : registry.checkedStep? name = some target ↔
    registry.baseType? name = none ∧
      ∃ typedef, registry.typedef? name = some typedef ∧ Types.baseName typedef.target = target := by
  unfold checkedStep?
  cases registry.baseType? name <;> simp

theorem walkStep?_eq_some_iff : registry.walkStep? name = some target ↔
    registry.baseType? name = none ∧
      ∃ typedef, registry.typedef? name = some typedef ∧ typedef.target = target := by
  unfold walkStep?
  cases registry.baseType? name <;> simp

variable (registry name) in
theorem typedef?_isSome_iff : (registry.typedef? name).isSome ↔
    name ∈ registry.typedefs.map (·.name) :=
  find?_name_isSome_iff name

variable (registry name) in
theorem baseType?_isSome_iff : (registry.baseType? name).isSome ↔
    name ∈ registry.baseTypes.map (·.name) := by
  rw [baseType?, Option.isSome_map]
  exact find?_name_isSome_iff name

theorem mem_names_of_checkedStep? (link : (registry.checkedStep? name).isSome) :
    name ∈ registry.typedefs.map (·.name) := by
  obtain ⟨target, link⟩ := Option.isSome_iff_exists.mp link
  obtain ⟨-, typedef, found, -⟩ := checkedStep?_eq_some_iff.mp link
  exact (registry.typedef?_isSome_iff name).mp (by rw [found]; rfl)

theorem mem_names_of_walkStep? (link : (registry.walkStep? name).isSome) :
    name ∈ registry.typedefs.map (·.name) := by
  obtain ⟨target, link⟩ := Option.isSome_iff_exists.mp link
  obtain ⟨-, typedef, found, -⟩ := walkStep?_eq_some_iff.mp link
  exact (registry.typedef?_isSome_iff name).mp (by rw [found]; rfl)

/-! ## The check -/

theorem continuing?_eq_some_iff {met : String} : registry.continuing? name = some met ↔
    name = met ∧ registry.baseType? name = none ∧ (registry.typedef? name).isSome := by
  unfold continuing?
  cases registry.baseType? name <;> cases registry.typedef? name <;> simp

theorem mem_names_of_continuing? {met : String} (goesOn : registry.continuing? name = some met) :
    met ∈ registry.typedefs.map (·.name) := by
  obtain ⟨rfl, -, declared⟩ := continuing?_eq_some_iff.mp goesOn
  exact (registry.typedef?_isSome_iff _).mp declared

theorem checkedStep?_of_typedef? {typedef : Typedef} (plain : registry.baseType? name = none)
    (found : registry.typedef? name = some typedef) :
    registry.checkedStep? name = some (Types.baseName typedef.target) :=
  checkedStep?_eq_some_iff.mpr ⟨plain, typedef, found, rfl⟩

theorem typedefNext?_of_typedef? {typedef : Typedef}
    (found : registry.typedef? name = some typedef) :
    registry.typedefNext? name = registry.continuing? (Types.baseName typedef.target) := by
  rw [typedefNext?, found, Option.bind_some]

theorem continuing?_isSome_iff : (registry.continuing? name).isSome ↔ (registry.checkedStep? name).isSome := by
  unfold continuing? checkedStep?
  cases registry.baseType? name <;> cases registry.typedef? name <;> simp

theorem continuing?_of_checkedStep? (goesOn : (registry.checkedStep? name).isSome) :
    registry.continuing? name = some name := by
  obtain ⟨met, found⟩ := Option.isSome_iff_exists.mp (continuing?_isSome_iff.mpr goesOn)
  obtain ⟨rfl, -⟩ := continuing?_eq_some_iff.mp found
  exact found

theorem continuing?_of_stop (stop : ¬ (registry.checkedStep? name).isSome) :
    registry.continuing? name = none :=
  Option.not_isSome_iff_eq_none.mp (mt continuing?_isSome_iff.mp stop)

/-- Behind a name at which resolution goes on, the check goes to the same name, if resolution goes on there too. -/
theorem typedefNext?_eq_some_iff (goesOn : (registry.checkedStep? name).isSome) :
    registry.typedefNext? name = some target ↔
      registry.checkedStep? name = some target ∧ (registry.checkedStep? target).isSome := by
  obtain ⟨second, link⟩ := Option.isSome_iff_exists.mp goesOn
  obtain ⟨-, typedef, found, rfl⟩ := checkedStep?_eq_some_iff.mp link
  rw [typedefNext?_of_typedef? found, link, Option.some.injEq]
  constructor
  · intro onward
    obtain ⟨rfl, -⟩ := continuing?_eq_some_iff.mp onward
    exact ⟨rfl, continuing?_isSome_iff.mp (by rw [onward]; rfl)⟩
  · rintro ⟨rfl, onward⟩
    exact continuing?_of_checkedStep? onward

theorem leads_typedefNext?_iff (goesOn : (registry.checkedStep? target).isSome) :
    Leads registry.typedefNext? target name ↔
      Leads registry.checkedStep? target name ∧ (registry.checkedStep? name).isSome := by
  constructor
  · intro leads
    induction leads with
    | refl => exact ⟨.refl, goesOn⟩
    | tail _ link ih =>
        obtain ⟨link, onward⟩ := (typedefNext?_eq_some_iff ih.2).mp link
        exact ⟨ih.1.tail link, onward⟩
  · rintro ⟨leads, last⟩
    induction leads using Relation.ReflTransGen.head_induction_on with
    | refl => exact .refl
    | @head here second link onward ih =>
        have follows : (registry.checkedStep? second).isSome := by
          rcases Relation.ReflTransGen.cases_head onward with rfl | ⟨third, link, -⟩
          · exact last
          · rw [link]; rfl
        exact .head ((typedefNext?_eq_some_iff goesOn).mpr ⟨link, follows⟩) (ih follows)

theorem ends_typedefNext?_iff (goesOn : (registry.checkedStep? name).isSome) :
    Ends registry.typedefNext? name ↔ Ends registry.checkedStep? name := by
  constructor
  · intro ends
    revert goesOn
    refine ends.induction (motive := fun name => (registry.checkedStep? name).isSome →
      Ends registry.checkedStep? name) fun name ih goesOn => ?_
    obtain ⟨second, link⟩ := Option.isSome_iff_exists.mp goesOn
    by_cases onward : (registry.checkedStep? second).isSome
    · exact .of_some link (ih second ((typedefNext?_eq_some_iff goesOn).mpr ⟨link, onward⟩) onward)
    · exact .of_some link (.of_none (Option.not_isSome_iff_eq_none.mp onward))
  · intro ends
    revert goesOn
    refine ends.induction (motive := fun name => (registry.checkedStep? name).isSome →
      Ends registry.typedefNext? name) fun name ih goesOn => ?_
    cases next : registry.typedefNext? name with
    | none => exact .of_none next
    | some second =>
        obtain ⟨link, onward⟩ := (typedefNext?_eq_some_iff goesOn).mp next
        exact .of_some next (ih second link onward)

/-- The chain behind a typedef is faultless exactly when the check's walk ends from its target. -/
theorem typedef_fault?_eq_none_iff {typedef : Typedef}
    (found : registry.typedef? typedef.name = some typedef) :
    fault? registry.typedefNext? (registry.typedefs.map (·.name)) [typedef.name]
        (registry.continuing? (Types.baseName typedef.target)) = none ↔
      Ends registry.checkedStep? (Types.baseName typedef.target) := by
  by_cases goesOn : (registry.checkedStep? (Types.baseName typedef.target)).isSome
  · rw [continuing?_of_checkedStep? goesOn, fault?_eq_none_iff, ← ends_typedefNext?_iff goesOn]
    constructor
    · rintro ⟨names, trail, -⟩
      exact ⟨names, trail⟩
    · rintro ⟨names, trail⟩
      refine ⟨names, trail, fun met mem => ?_⟩
      obtain ⟨leads, onward⟩ := (leads_typedefNext?_iff goesOn).mp (trail.leads_of_mem _ rfl met mem)
      refine ⟨mem_names_of_checkedStep? onward, fun passed => ?_⟩
      -- Were the typedef itself met, it would lie on a circle that its target leads into.
      obtain rfl := List.mem_singleton.mp passed
      obtain ⟨second, link⟩ := Option.isSome_iff_exists.mp onward
      have ends := (ends_typedefNext?_iff goesOn).mp ⟨names, trail⟩
      exact ends.ne_some_of_leads leads (checkedStep?_of_typedef? (checkedStep?_eq_some_iff.mp link).1 found)
  · rw [continuing?_of_stop goesOn, fault?]
    exact iff_of_true rfl (.of_none (Option.not_isSome_iff_eq_none.mp goesOn))

/-- **A typedef has no defect exactly when its target names a defined type from which the check's walk
ends.** -/
theorem typedefDefects_eq_nil_iff {typedef : Typedef}
    (found : registry.typedef? typedef.name = some typedef) :
    registry.typedefDefects typedef = [] ↔
      registry.definesType (Types.baseName typedef.target) = true ∧
        Ends registry.checkedStep? (Types.baseName typedef.target) := by
  rw [← typedef_fault?_eq_none_iff found, typedefDefects]
  have closed : ∀ name target, registry.typedefNext? name = some target →
      target ∈ registry.typedefs.map (·.name) := by
    intro name target link
    obtain ⟨_, -, goesOn⟩ := Option.bind_eq_some_iff.mp link
    exact mem_names_of_continuing? goesOn
  have declared := fault?_ne_undeclared closed [typedef.name]
    (registry.continuing? (Types.baseName typedef.target)) fun _ => mem_names_of_continuing?
  by_cases defined : registry.definesType (Types.baseName typedef.target) = true
  · simp only [defined, if_true, true_and]
    cases outcome : fault? registry.typedefNext? (registry.typedefs.map (·.name)) [typedef.name]
        (registry.continuing? (Types.baseName typedef.target)) with
    | none => simp
    | some fault =>
        cases fault with
        | undeclared missing => exact absurd outcome (declared missing)
        | cycle met => simp
  · simp [defined]

end ApiBindings.Registry
