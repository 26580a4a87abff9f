import ApiBindings.Binding.Emit
import ApiBindings.Proofs.BalancedScripts

/-!
# Indentation of the emitted code

Every emitter leaves the levels that it enters, whatever it is told of the types it asks about.  Its script is
balanced to a depth of three, which the constructors of the command table reach: the table's methods, the body of a
method, the fields of a value.  Lists without entries, the single line of a function type without parameters and the
line that only an empty table has stay at the level of what stands around them.

An artifact can therefore be emitted at any level of any output, by a strict writer as by another one
(`artifact_indentation_balanced`).  Levels are numbers without an upper end here; emission goes three of
them deeper and no more, so a counter of limited width needs room for three.
-/

namespace ApiBindings

set_option autoImplicit false

/-- Over a memo, a computation whose value is only rearranged has the rearranged value. -/
theorem Resolving.run_map_fst {α β : Type} (resolve : String → String) (x : Resolving α) (f : α → β)
    (memo : Memo) : ((x >>= fun value => pure (f value)).run resolve memo).1 = f (x.run resolve memo).1 := by
  induction x generalizing memo with
  | answer value => rfl
  | ask name next ih => exact ih _ _

namespace Binding

open Resolving Script

/-! ## Declarations -/

theorem FunctionType.balanced_script (type : FunctionType) : Balanced 2 type.script := by
  rw [FunctionType.script]
  cases type.params.isEmpty with
  | true => exact .line 2 _
  | false => exact ((balanced_lines 0 _).block _ _).block _ _

theorem EnumDeclaration.balanced_script (declaration : EnumDeclaration) : Balanced 2 declaration.script := by
  rw [EnumDeclaration.script]
  cases declaration.kind with
  | plain => exact (balanced_lines 2 _).append ((Balanced.blank 2).append ((balanced_lines 1 _).block _ _))
  | bitmask => exact ((balanced_lines 1 _).append ((balanced_lines 0 _).block _ _)).block _ _

theorem AggregateDeclaration.balanced_script (declaration : AggregateDeclaration) :
    Balanced 1 declaration.script :=
  (balanced_lines 1 _).append ((balanced_lines 0 _).block _ _)

theorem balanced_singleFunction (head signature body : String) :
    Balanced 2 (singleFunction head signature body) :=
  ((balanced_lines 0 _).block _ _).block _ _

theorem HandleDeclaration.balanced_script (declaration : HandleDeclaration) :
    Balanced 2 declaration.script := by
  have members : Balanced 1 (separated
      [lines ["pub const NULL: Self = Self(" ++ declaration.null ++ ");"],
        block "pub fn is_null(self) -> bool \x7b" (lines ["self == Self::NULL"]) "\x7d"]) := by
    refine balanced_separated (List.forall_mem_cons.mpr ⟨balanced_lines 1 _, ?_⟩)
    exact List.forall_mem_singleton.mpr ((balanced_lines 0 _).block _ _)
  refine balanced_separated ?_
  simp only [List.forall_mem_cons]
  exact ⟨balanced_lines 2 _, members.block _ _, balanced_singleFunction _ _ _, balanced_singleFunction _ _ _,
    balanced_singleFunction _ _ _, List.forall_mem_nil _⟩

/-! ## The command table -/

theorem Forwarder.balanced_script (method : Forwarder) : Balanced 2 method.script :=
  (balanced_lines 2 _).append ((balanced_lines 1 _).block _ _)

theorem balanced_tableScript (slots : List Slot) : Balanced 3 (tableScript slots) :=
  (balanced_lines 3 _).append ((balanced_lines 2 _).block _ _)

theorem balanced_unboundScript (slots : List EmptySlot) : Balanced 2 (unboundScript slots) :=
  (balanced_lines 2 _).append (((balanced_lines 0 _).block _ _).block _ _)

theorem balanced_loadScript (slots : List LoadedSlot) : Balanced 2 (loadScript slots) := by
  have condition := (balanced_lines 1
    ["F: FnMut(&::core::ffi::CStr) -> *const ::core::ffi::c_void,"]).indented
  have body := (balanced_lines 1 (if slots.isEmpty then ["let _ = &mut loader;"] else [])).append
    ((balanced_lines 0 (slots.map LoadedSlot.text)).block "Self \x7b" "\x7d")
  exact ((balanced_lines 2 _).append condition).append (body.block "\x7b" "\x7d")

theorem CommandTable.balanced_script (table : CommandTable) : Balanced 3 table.script := by
  have signatures : Balanced 3 (if table.signatures.isEmpty then []
      else lines (table.signatures.map SignatureType.text) ++ [.blank]) := by
    cases table.signatures.isEmpty with
    | true => exact .nil 3
    | false => exact (balanced_lines 3 _).append (.blank 3)
  have methods : Balanced 2 (separated (unboundScript table.emptySlots :: loadScript table.loadedSlots ::
      table.forwarders.map Forwarder.script)) := by
    refine balanced_separated ?_
    simp only [List.forall_mem_cons, List.forall_mem_map]
    exact ⟨balanced_unboundScript _, balanced_loadScript _, fun method _ => method.balanced_script⟩
  refine signatures.append (balanced_separated ?_)
  simp only [List.forall_mem_cons]
  exact ⟨balanced_tableScript _, methods.block _ _, ((balanced_lines 1 _).block _ _).block _ _,
    List.forall_mem_nil _⟩

/-! ## Artifacts -/

variable (registry : Registry)

/-- Whatever the memo remembers, the declarations of an artifact are at most three levels deep. -/
theorem balanced_bodyScript (artifact : Artifact) (memo : Memo) :
    Balanced 3 ((bodyScript registry artifact).run registry.resolve memo).1 := by
  cases artifact with
  | constants => exact balanced_lines 3 _
  | delegates =>
      rw [bodyScript, run_map_fst]
      exact balanced_separated_map (fun type => type.balanced_script.mono) _
  | enums => exact balanced_separated_map (fun enumeration => enumeration.balanced_script.mono) _
  | unions | structs =>
      rw [bodyScript, run_map_fst]
      exact balanced_separated_map (fun aggregate => aggregate.balanced_script.mono.mono) _
  | handles => exact balanced_separated_map (fun handle => handle.balanced_script.mono) _
  | commands =>
      rw [bodyScript, run_map_fst]
      exact CommandTable.balanced_script _

/-- The banner stands at the level where the artifact starts. -/
theorem balanced_artifactScript (artifact : Artifact) (memo : Memo) :
    Balanced 3 ((artifactScript registry artifact).run registry.resolve memo).1 := by
  rw [artifactScript, run_map_fst]
  exact (Balanced.line 3 _).append ((Balanced.blank 3).append (balanced_bodyScript registry artifact memo))

/-- The text of an artifact is what the steps of its script add from level zero on. -/
theorem run_artifactText (artifact : Artifact) (memo : Memo) :
    ((artifactText registry artifact).run registry.resolve memo).1 =
      String.join ((((artifactScript registry artifact).run registry.resolve memo).1.stepsFrom 0).map
        StepAt.text) := by
  rw [artifactText, run_map_fst, Script.text, Writer.output_run, Writer.empty, String.empty_append]

/-- **Emission keeps the level of indentation.**  Whatever the memo remembers, at whatever level and with whatever
output a writer starts on an artifact: no step is to leave level zero, the steps go three levels deeper at most, and
the strict writer carries them out like any other.  The level is the same afterwards, and the texts of the steps stand
behind the output from before.  They are those of the steps from level zero, which make up the text of the artifact,
but for the spaces in front of lines, four for each level. -/
theorem artifact_indentation_balanced (artifact : Artifact) (memo : Memo) (start : Writer) :
    let script := ((artifactScript registry artifact).run registry.resolve memo).1
    let steps := script.stepsFrom start.level
    (∀ step ∈ steps, step.instruction = .dedent → 0 < step.level) ∧
    (∀ step ∈ steps, start.level ≤ step.level ∧ step.level ≤ start.level + 3) ∧
    start.run? script = some (start.run script) ∧
    (start.run script).level = start.level ∧
    (start.run script).output = start.output ++ String.join (steps.map StepAt.text) ∧
    ((artifactText registry artifact).run registry.resolve memo).1 =
      String.join ((script.stepsFrom 0).map StepAt.text) ∧
    steps.map StepAt.text =
      (script.stepsFrom 0).map fun step => step.extraSpaces start.level ++ step.text := by
  intro script steps
  have balanced : script.Balanced 3 := balanced_artifactScript registry artifact memo
  have strict : start.run? script = some (start.run script) :=
    (start.run?_eq_some_iff script).mpr (balanced.allowed start.level)
  have deeper := map_text_stepsFrom (balanced.allowed 0) start.level
  rw [Nat.zero_add] at deeper
  refine ⟨balanced.allowed start.level, ?_, strict, balanced.level_run start, start.output_run script,
    run_artifactText registry artifact memo, deeper⟩
  intro step mem
  obtain ⟨lower, upper, -⟩ := balanced.level_stepsFrom step mem
  exact ⟨lower, upper⟩

end Binding

end ApiBindings
