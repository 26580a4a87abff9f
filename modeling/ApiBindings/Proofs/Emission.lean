import ApiBindings.Binding.Emit
import ApiBindings.Proofs.Interleavings
import ApiBindings.Registry.Lowering
import Mathlib.Algebra.Order.BigOperators.Group.List
import Mathlib.Algebra.Order.Group.Nat

/-!
# Emission of a selection

What is emitted for an entry of a selection depends on the registry and the artifact alone
(`emission_unaffected`).  Neither the entries beside it nor their order matter, nor whether they are emitted
one after another or side by side, nor what the memo that they share remembers already.

Every emitter is a computation that asks how names resolve, and nothing else ties it to the memo.  The theorem
is therefore a consequence of two facts about all such computations: over a memo that remembers nothing wrong
a computation has the value that it has without a memo (`Resolving.run_fst`), and so it has as one of several
clients (`Resolving.Shared.Consistent.eq_of_values?`).
-/

namespace ApiBindings

set_option autoImplicit false

open Resolving

variable {α : Type} {resolve : String → String}

/-- Whatever a computation asks, it leaves the memo without anything wrong. -/
theorem Resolving.run_snd_sound (x : Resolving α) {memo : Memo} (sound : memo.Sound resolve) :
    (x.run resolve memo).2.Sound resolve := by
  induction x generalizing memo with
  | answer value => exact sound
  | ask name next ih => exact ih _ (consult_snd_sound sound name)

namespace Binding

variable (registry : Registry)

/-- The file of an artifact that is emitted alone, over a memo of its own. -/
def emitAlone (artifact : Artifact) : GeneratedFile :=
  ⟨artifact, ((artifactText registry artifact).run registry.resolve .empty).1⟩

theorem emitAlone_eq_eval (artifact : Artifact) :
    emitAlone registry artifact = (generatedFile registry artifact).eval registry.resolve := by
  rw [emitAlone, run_fst _ (Memo.sound_empty _), generatedFile, eval_bind]
  rfl

theorem emit_eq_map_emitAlone (artifacts : List Artifact) :
    emit registry artifacts = artifacts.map (emitAlone registry) := by
  have files : emit registry artifacts =
    ((artifacts.mapM (generatedFile registry)).run registry.resolve .empty).1 := rfl
  rw [files, run_fst _ (Memo.sound_empty _), eval_mapM]
  exact List.map_congr_left fun artifact _ => (emitAlone_eq_eval registry artifact).symm

theorem map_eval_generatedFile (artifacts : List Artifact) :
    (artifacts.map (generatedFile registry)).map (·.eval registry.resolve) =
      artifacts.map (emitAlone registry) := by
  rw [List.map_map]
  exact List.map_congr_left fun artifact _ => (emitAlone_eq_eval registry artifact).symm

/-- Finished files are those that are emitted alone. -/
theorem eq_of_emitTogether {artifacts : List Artifact} {schedule : List Nat}
    {files : List GeneratedFile} (finished : emitTogether registry artifacts schedule = some files) :
    files = artifacts.map (emitAlone registry) := by
  have initial : Shared.Consistent registry.resolve (artifacts.map (generatedFile registry))
    (Shared.start (artifacts.map (generatedFile registry))) := .start _
  rw [← map_eval_generatedFile]
  exact (initial.run schedule).eq_of_values? finished

/-- No entry waits for another: all files are finished once every entry was scheduled often enough. -/
theorem exists_emitTogether_eq (artifacts : List Artifact) :
    ∃ steps, ∀ schedule : List Nat,
      (∀ position < artifacts.length, steps ≤ schedule.count position) →
        emitTogether registry artifacts schedule = some (artifacts.map (emitAlone registry)) := by
  let programs := artifacts.map (generatedFile registry)
  let lengths := programs.map fun program => (program.calls registry.resolve).length
  refine ⟨3 * lengths.sum, fun schedule often => ?_⟩
  rw [← map_eval_generatedFile]
  refine Shared.values?_of_le_count fun position program has => ?_
  have inside : position < artifacts.length := by
    rw [← List.length_map (generatedFile registry)]
    exact (List.getElem?_eq_some_iff.mp has).1
  have listed : (program.calls registry.resolve).length ∈ lengths :=
    List.mem_map_of_mem (List.mem_of_getElem? has)
  have short := List.le_sum_of_mem listed
  have enough := often position inside
  omega

/-- **Emission depends on nothing but the registry and the artifact.**  A selection is emitted to one file for
each of its entries, in its order, and each file is the one that its artifact has alone.  Emitting the entries
side by side gives the same files whenever all of them are finished, which they are once each was scheduled
often enough.  Nor does it matter what was asked of the memo before. -/
theorem emission_unaffected (registry : Registry) (artifacts : List Artifact) :
    emit registry artifacts = artifacts.map (emitAlone registry) ∧
    (∀ schedule files, emitTogether registry artifacts schedule = some files →
      files = artifacts.map (emitAlone registry)) ∧
    (∃ steps, ∀ schedule : List Nat,
      (∀ position < artifacts.length, steps ≤ schedule.count position) →
        emitTogether registry artifacts schedule = some (artifacts.map (emitAlone registry))) ∧
    ∀ (γ : Type) (earlier : Resolving γ) (artifact : Artifact),
      ((generatedFile registry artifact).run registry.resolve
        (earlier.run registry.resolve .empty).2).1 = emitAlone registry artifact := by
  refine ⟨emit_eq_map_emitAlone registry artifacts, ?_, exists_emitTogether_eq registry artifacts, ?_⟩
  · intro schedule files finished
    exact eq_of_emitTogether registry finished
  · intro γ earlier artifact
    have sound := run_snd_sound earlier (Memo.sound_empty registry.resolve)
    rw [run_fst _ sound, emitAlone_eq_eval]

/-- A struct and a union whose members have the same type. -/
def sharedMembers : Registry :=
  Document.registry { Document.empty with
    structs := [⟨"Range", [⟨"mask", "Flags", 2⟩]⟩]
    unions := [⟨"Value", [⟨"bits", "Flags", 1⟩, ⟨"next", "const Value*", 1⟩]⟩]
    typedefs := [⟨"Flags", "Bits"⟩]
    baseTypes := [⟨"Bits", "uint32_t"⟩] }

/-- The first two entries miss `Flags` together, and the last one finds what they remember. -/
def sharedMembersRace : List Nat :=
  [0, 1, 0, 1, 1, 0, 0, 0, 0, 1, 1, 1, 2, 2, 2, 1, 1, 1, 2, 2]

theorem emission_of_sharedMembers :
    let artifacts : List Artifact := [.structs, .unions, .structs]
    (∃ files, emitTogether sharedMembers artifacts sharedMembersRace = some files ∧
      files = emit sharedMembers artifacts) ∧
    ∃ schedule, emitTogether sharedMembers artifacts schedule =
      some (artifacts.map (emitAlone sharedMembers)) := by
  intro artifacts
  obtain ⟨sequential, finished, ⟨steps, ends⟩, -⟩ := emission_unaffected sharedMembers artifacts
  have together : (emitTogether sharedMembers artifacts sharedMembersRace).isSome := by
    decide +kernel
  obtain ⟨files, emitted⟩ := Option.isSome_iff_exists.mp together
  refine ⟨⟨files, emitted, ?_⟩,
    List.replicate steps 0 ++ List.replicate steps 1 ++ List.replicate steps 2, ends _ ?_⟩
  · rw [sequential, finished _ files emitted]
  · intro position inside
    simp only [List.count_append, List.count_replicate]
    have three : position = 0 ∨ position = 1 ∨ position = 2 := by
      simp [artifacts] at inside
      omega
    rcases three with rfl | rfl | rfl <;> simp

end Binding

end ApiBindings
