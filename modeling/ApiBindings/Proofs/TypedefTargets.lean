import ApiBindings.Proofs.ProblemRows
import ApiBindings.Types.Spelling
import Mathlib.Data.List.DropRight

/-!
# What the target of a typedef names

Two readers take the named type out of a spelling.  A document is checked with `Types.baseName`, which
drops qualifiers and pointer levels; types are emitted with `Types.Spelling.parse`, which also drops a
`struct` in front of the named type, as C writes it there.  On every other spelling the two agree
(`base_parse_of_not_elaborated`).

So a typedef whose target names a defined type for the emitted code is refused as unknown exactly if the
target is written with `struct`, and nothing is defined under the name with `struct` in it
(`unknown_target_iff_elaborated`).  The condition is not empty: a member of a struct may be spelled so,
and a typedef may not (`check_refuses_usable_target`).
-/

namespace ApiBindings

set_option autoImplicit false

open ApiBindings.Text ApiBindings.Types

/-! ## Trimmed texts -/

namespace Text

theorem trimEnd_eq_rdropWhile (text : List Char) : trimEnd text = text.rdropWhile isBlank := rfl

/-- A text that starts with no blank does so after its end is trimmed. -/
theorem dropWhile_trimEnd {text : List Char} (start : text.dropWhile isBlank = text) :
    (trimEnd text).dropWhile isBlank = trimEnd text := by
  have kept : trimEnd text <+: text := List.rdropWhile_prefix isBlank text
  rw [List.dropWhile_eq_self_iff] at start ⊢
  intro nonempty blank
  have longer := nonempty.trans_le kept.length_le
  exact start longer (by rwa [← kept.getElem nonempty])

theorem trim_trim (text : List Char) : trim (trim text) = trim text := by
  rw [trim, trim, dropWhile_trimEnd (List.dropWhile_idempotent isBlank text), trimEnd_eq_rdropWhile,
    trimEnd_eq_rdropWhile, List.rdropWhile_idempotent]

end Text

/-! ## The two readers -/

/-- A spelling that has `struct` in front of its named type. -/
def Types.Elaborated (spelling : String) : Prop :=
  ['s', 't', 'r', 'u', 'c', 't', ' '] <+: (baseName spelling).toList

instance (spelling : String) : Decidable (Elaborated spelling) :=
  inferInstanceAs (Decidable (_ <+: _))

/-- Without a `struct` the two readers of spellings agree on the named type. -/
theorem base_parse_of_not_elaborated {spelling : String} (plain : ¬ Elaborated spelling) :
    (Spelling.parse spelling).base = baseName spelling := by
  have written : (baseName spelling).toList = dropConst (beforeStars spelling.toList) :=
    String.toList_ofList
  rw [Elaborated, written, ← List.isPrefixOf_iff_prefix] at plain
  show String.ofList (trim (dropStart _ (dropConst (beforeStars spelling.toList)))) = _
  rw [dropStart, if_neg plain, dropConst, trim_trim]
  rfl

/-! ## The check -/

variable {document : Document}

theorem mem_typedefDefects_unknown_iff {registry : Registry} {typedef : Typedef} {target : String} :
    .unknownTypedefTarget target ∈ registry.typedefDefects typedef ↔
      target = typedef.target ∧ registry.definesType (baseName typedef.target) = false := by
  rw [Registry.typedefDefects]
  cases registry.definesType (baseName typedef.target) with
  | false => simp
  | true =>
      simp only [if_true]
      split <;> simp

/-- **Of the typedefs whose target names a defined type, the check refuses as unknown exactly those
written with `struct`,** as long as no type is itself named so. -/
theorem unknown_target_iff_elaborated {index : Nat} {typedef : Typedef}
    (row : document.typedefs[index]? = some typedef)
    (defined : document.registry.definesType (Spelling.parse typedef.target).base = true)
    (target : String) :
    ⟨⟨.typedefs, index, typedef.name⟩, .unknownTypedefTarget target⟩ ∈ document.problems ↔
      target = typedef.target ∧ Elaborated typedef.target ∧
        document.registry.definesType (baseName typedef.target) = false := by
  have noName : (⟨⟨.typedefs, index, typedef.name⟩, .unknownTypedefTarget target⟩ : Problem) ∉
      nameProblems .typedefs (document.typedefs.map (·.name)) := by
    intro mem
    rcases (mem_nameProblems mem).2 with named | ⟨_, named⟩ <;> cases named
  rw [mem_typedefProblems_iff rfl, or_iff_right noName]
  simp only [row, Option.some.injEq, exists_eq_left', true_and, mem_typedefDefects_unknown_iff]
  refine and_congr_right fun _ => ⟨fun missing => ⟨?_, missing⟩, fun refused => refused.2⟩
  by_contra plain
  rw [base_parse_of_not_elaborated plain, missing] at defined
  cases defined

/-- A struct that a member and a typedef name with `struct` in front, and another typedef without. -/
def elaboratedTargets : Document :=
  { Document.empty with
    structs := [⟨"Extent", []⟩, ⟨"Image", [⟨"extent", "const struct Extent*", 1⟩]⟩]
    typedefs := [⟨"Size", "Extent"⟩, ⟨"SizePtr", "const struct Extent*"⟩] }

theorem unknown_target_in_elaboratedTargets :
    (⟨⟨.typedefs, 1, "SizePtr"⟩, .unknownTypedefTarget "const struct Extent*"⟩ : Problem) ∈
        elaboratedTargets.problems ∧
      (⟨⟨.typedefs, 0, "Size"⟩, .unknownTypedefTarget "Extent"⟩ : Problem) ∉ elaboratedTargets.problems := by
  constructor
  · have row : elaboratedTargets.typedefs[1]? = some ⟨"SizePtr", "const struct Extent*"⟩ := rfl
    exact (unknown_target_iff_elaborated row (by decide +kernel) _).mpr
      ⟨rfl, by decide +kernel, by decide +kernel⟩
  · have row : elaboratedTargets.typedefs[0]? = some ⟨"Size", "Extent"⟩ := rfl
    rw [unknown_target_iff_elaborated row (by decide +kernel)]
    decide +kernel

/-- The check refuses a typedef for a target that names a defined type and is accepted as the type of a
member. -/
theorem check_refuses_usable_target :
    ∃ (document : Document) (index : Nat) (typedef : Typedef),
      document.typedefs[index]? = some typedef ∧
        document.registry.definesType (Spelling.parse typedef.target).base = true ∧
        (∃ row ∈ document.structs, ∃ m ∈ row.members, m.type = typedef.target) ∧
        document.problems =
          [⟨⟨.typedefs, index, typedef.name⟩, .unknownTypedefTarget typedef.target⟩] :=
  ⟨elaboratedTargets, 1, ⟨"SizePtr", "const struct Extent*"⟩, rfl, by decide +kernel,
    ⟨⟨"Image", [⟨"extent", "const struct Extent*", 1⟩]⟩, by decide, _, List.mem_singleton_self _, rfl⟩,
    by decide +kernel⟩

end ApiBindings
