import ApiBindings.Proofs.BareNames

/-!
# Typedefs are transparent

In a registry whose types are named by bare words and whose base types end at native scalars, a typedef is
emitted as its target is, whatever qualifiers, stars and blanks the target is written with, and so is a base
type as its value (`typedef_transparent`).

No circle of rows passes through a base type there, so the rows come to an end from every name.  The name of
a row unfolds to what its value unfolds to, by one row more, and expansion follows unfolding.
-/

namespace ApiBindings

set_option autoImplicit false

open Chain ApiBindings.Types Registry

theorem Types.eval_emittedType (registry : Registry) (spelling : String) :
    (emittedType registry spelling).eval registry.resolve =
      ((expand registry spelling).eval registry.resolve).emitted := by
  rw [emittedType, Resolving.eval_bind, Resolving.eval_pure]

theorem Types.eval_isVoid (registry : Registry) (spelling : String) :
    (isVoid registry spelling).eval registry.resolve =
      ((expand registry spelling).eval registry.resolve).isVoid := by
  rw [isVoid, Resolving.eval_bind, Resolving.eval_pure]

section Scalars

variable {document : Document} (sound : document.WellFormed)
  (bare : ∀ name ∈ document.registry.typeNames, BareWord name)
  (scalars : ∀ row ∈ document.registry.baseTypes,
    isPrimitive (Spelling.parse row.target).base = true ∧
      document.registry.rowOf? (Spelling.parse row.target).base = none)
include scalars

/-- A base type leads out of the rows at once. -/
theorem not_baseTypeCircle (name : String) : ¬ document.registry.BaseTypeCircle name := by
  rintro ⟨met, -, based, target, link, back⟩
  obtain ⟨value, based⟩ := Option.isSome_iff_exists.mp based
  obtain ⟨found, mem, rfl⟩ := Option.map_eq_some_iff.mp based
  have bottom := (scalars found (List.mem_of_find?_eq_some mem)).2
  have named : target = (Spelling.parse found.target).base :=
    Option.some.inj (link.symm.trans (rowStep?_of_rowOf? (rowOf?_of_baseType? based)))
  rw [← named] at bottom
  rcases Relation.ReflTransGen.cases_head back with same | ⟨second, onward, -⟩
  · rw [same, rowOf?_of_baseType? based] at bottom
    cases bottom
  · cases onward.symm.trans (rowStep?_eq_none_iff.mpr bottom)

include sound bare

/-- The name of a row is expanded to what its value is expanded to. -/
theorem expand_name_eq_expand_value {name value : String}
    (row : document.registry.rowOf? name = some value) :
    (expand document.registry name).eval document.registry.resolve =
      (expand document.registry value).eval document.registry.resolve := by
  have rows := sound.bareRows bare fun row mem => bareWord_of_isPrimitive (scalars row mem).1
  have ends := (sound.ends_rowStep?_iff bare (Spelling.parse value).base).mpr
    (not_baseTypeCircle scalars _)
  obtain ⟨names, result, unfolds⟩ := exists_unfolds ends (Spelling.parse value).levels
  have word := (rows.name row).parse
  have whole : document.registry.Unfolds (name :: names) (Spelling.parse name) result := by
    rw [word]
    refine .row row ?_
    rw [List.append_nil]
    exact unfolds
  rw [rows.expand_of_unfolds whole (by rw [word]; exact rows.name row),
    rows.expand_of_unfolds unfolds (rows.value row)]

end Scalars

/-- **Typedefs and base types are transparent in emitted types.** -/
theorem typedef_transparent {document : Document} {registry : Registry}
    (built : document.build = .ok registry) (bare : ∀ name ∈ registry.typeNames, BareWord name)
    (scalars : ∀ row ∈ registry.baseTypes, isPrimitive (Spelling.parse row.target).base = true ∧
      registry.rowOf? (Spelling.parse row.target).base = none) :
    (∀ typedef ∈ registry.typedefs, registry.baseType? typedef.name = none →
      (emittedType registry typedef.name).eval registry.resolve =
        (emittedType registry typedef.target).eval registry.resolve ∧
      (isVoid registry typedef.name).eval registry.resolve =
        (isVoid registry typedef.target).eval registry.resolve) ∧
    (∀ row ∈ registry.baseTypes,
      (emittedType registry row.name).eval registry.resolve =
        (emittedType registry row.target).eval registry.resolve ∧
      (isVoid registry row.name).eval registry.resolve =
        (isVoid registry row.target).eval registry.resolve) := by
  obtain ⟨sound, rfl⟩ := Document.build_eq_ok_iff.mp built
  simp only [eval_emittedType, eval_isVoid]
  constructor
  · intro typedef mem plain
    have row := rowOf?_of_typedef? plain (sound.typedef?_of_mem mem)
    have same := expand_name_eq_expand_value sound bare scalars row
    exact ⟨congrArg Spelling.emitted same, congrArg Spelling.isVoid same⟩
  · intro baseType mem
    have row := rowOf?_of_baseType? (sound.baseType?_of_mem mem)
    have same := expand_name_eq_expand_value sound bare scalars row
    exact ⟨congrArg Spelling.emitted same, congrArg Spelling.isVoid same⟩

/-- A table of rows of flags, and a type that stands for no type of a value. -/
def flagTables : Document :=
  { Document.empty with
    typedefs := [⟨"Table", "  Row const *"⟩, ⟨"Row", "const Flags *"⟩, ⟨"Flags", "Bits"⟩]
    baseTypes := [⟨"Bits", "uint32_t"⟩, ⟨"Nothing", "void"⟩] }

theorem flagTables_built : flagTables.build = .ok flagTables.registry :=
  Document.build_of_problems_eq_nil (by decide +kernel)

theorem typedef_transparent_in_flagTables :
    (∀ name ∈ flagTables.registry.typeNames, BareWord name) ∧
    (∀ row ∈ flagTables.registry.baseTypes, isPrimitive (Spelling.parse row.target).base = true ∧
      flagTables.registry.rowOf? (Spelling.parse row.target).base = none) ∧
    (emittedType flagTables.registry "Table").eval flagTables.registry.resolve =
      (emittedType flagTables.registry "  Row const *").eval flagTables.registry.resolve ∧
    (emittedType flagTables.registry "Table").eval flagTables.registry.resolve =
      "*const *const u32" ∧
    (isVoid flagTables.registry "Nothing").eval flagTables.registry.resolve =
      (isVoid flagTables.registry "void").eval flagTables.registry.resolve := by
  have bare : ∀ name ∈ flagTables.registry.typeNames, BareWord name := by decide +kernel
  have scalars : ∀ row ∈ flagTables.registry.baseTypes,
      isPrimitive (Spelling.parse row.target).base = true ∧
        flagTables.registry.rowOf? (Spelling.parse row.target).base = none := by decide +kernel
  obtain ⟨typedefs, baseTypes⟩ := typedef_transparent flagTables_built bare scalars
  refine ⟨bare, scalars, ?_, ?_, ?_⟩
  · exact (typedefs ⟨"Table", "  Row const *"⟩ (by decide) rfl).1
  · decide +kernel
  · exact (baseTypes ⟨"Nothing", "void"⟩ (by decide)).2

end ApiBindings
