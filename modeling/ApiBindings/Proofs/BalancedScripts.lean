import ApiBindings.Proofs.ScriptText

/-!
# Balanced scripts

A writer that is told to leave a level at level zero stays where it is.  A script that leaves a level too often is
therefore carried out all the same, and what it writes behind that step does not move with the level where it starts.
The strict writer (`Writer.run?`) gives up at such a step.

A script is balanced to a depth when it is put together from lines, blank lines and bodies one level deeper, with so
many bodies inside each other at most.  It ends at the level where it starts (`Balanced.level_run`), and its steps go
no deeper than the depth and never above that level (`Balanced.level_stepsFrom`), so that a step that leaves a level
has one to leave.  That is all the strict writer asks for (`run?_eq_some_iff`), and it is why the texts that a script
adds are the same wherever it starts, but for the spaces in front of its lines (`map_text_stepsFrom`).
-/

namespace ApiBindings.Binding

set_option autoImplicit false

/-! ## The strict writer -/

namespace Writer

/-- Carries out one step, unless it is to leave level zero. -/
def step? (writer : Writer) (instruction : Instruction) : Option Writer :=
  if instruction = .dedent ∧ writer.level = 0 then none else some (writer.step instruction)

/-- Carries out a script, unless one of its steps is to leave level zero. -/
def run? (writer : Writer) (script : Script) : Option Writer := script.foldlM step? writer

end Writer

/-! ## Steps at their levels -/

/-- A step of a script with the level at which it is carried out. -/
structure StepAt where
  level : Nat
  instruction : Instruction
  deriving DecidableEq, Repr

namespace StepAt

/-- What the step adds to the output. -/
def text (step : StepAt) : String :=
  match step.instruction with
  | .indent | .dedent => ""
  | .blank => "\n"
  | .line text => Writer.lineText step.level text

/-- The level after the step. -/
def next (step : StepAt) : Nat :=
  match step.instruction with
  | .indent => step.level + 1
  | .dedent => step.level - 1
  | .blank | .line _ => step.level

/-- Where the step leaves a level, there is one to leave. -/
def Allowed (step : StepAt) : Prop := step.instruction = .dedent → 0 < step.level

/-- The step when everything is a number of levels deeper. -/
def deeper (levels : Nat) (step : StepAt) : StepAt := { step with level := step.level + levels }

/-- The spaces that are added in front of the step's text when everything is a number of levels deeper: four for each
level in front of a line, and none elsewhere. -/
def extraSpaces (levels : Nat) (step : StepAt) : String :=
  match step.instruction with
  | .line _ => String.ofList (List.replicate (4 * levels) ' ')
  | .indent | .dedent | .blank => ""

theorem text_deeper (levels : Nat) (step : StepAt) :
    (step.deeper levels).text = step.extraSpaces levels ++ step.text := by
  obtain ⟨level, instruction⟩ := step
  cases instruction with
  | indent | dedent | blank => rfl
  | line text =>
      have spaces : Writer.indentation (level + levels) =
        String.ofList (List.replicate (4 * levels) ' ') ++ Writer.indentation level := by
        rw [Writer.indentation, Writer.indentation, ← String.ofList_append, List.replicate_append_replicate,
          Nat.mul_add, Nat.add_comm]
      simp only [StepAt.text, deeper, extraSpaces, Writer.lineText, spaces, String.append_assoc]

theorem next_deeper (levels : Nat) {step : StepAt} (allowed : step.Allowed) :
    (step.deeper levels).next = step.next + levels := by
  obtain ⟨level, instruction⟩ := step
  cases instruction with
  | indent => simp only [next, deeper]; omega
  | dedent =>
      have positive : 0 < level := allowed rfl
      simp only [next, deeper]
      omega
  | blank | line => rfl

end StepAt

/-- The steps of a script that starts at a level. -/
def Script.stepsFrom : Nat → Script → List StepAt
  | _, [] => []
  | level, instruction :: script =>
    ⟨level, instruction⟩ :: stepsFrom (StepAt.next ⟨level, instruction⟩) script

namespace Writer

theorem step_eq (writer : Writer) (instruction : Instruction) :
    writer.step instruction = ⟨StepAt.next ⟨writer.level, instruction⟩,
      writer.output ++ StepAt.text ⟨writer.level, instruction⟩⟩ := by
  cases instruction with
  | indent | dedent => simp only [step, StepAt.next, StepAt.text, String.append_empty]
  | blank => rfl
  | line text => simp only [step, StepAt.next, StepAt.text, lineText, String.append_assoc]

theorem run_cons (writer : Writer) (instruction : Instruction) (script : Script) :
    writer.run (instruction :: script) = (writer.step instruction).run script := rfl

/-- A script adds the texts of its steps to the output, one after another. -/
theorem output_run (writer : Writer) (script : Script) :
    (writer.run script).output =
      writer.output ++ String.join ((script.stepsFrom writer.level).map StepAt.text) := by
  induction script generalizing writer with
  | nil => simp [run, Script.stepsFrom]
  | cons instruction script ih =>
      rw [run_cons, ih, Script.stepsFrom, List.map_cons, String.join_cons, ← String.append_assoc, step_eq]

/-- The strict writer carries a script out like any other writer, exactly if no step is to leave level zero. -/
theorem run?_eq_some_iff (writer : Writer) (script : Script) :
    writer.run? script = some (writer.run script) ↔
      ∀ step ∈ script.stepsFrom writer.level, step.Allowed := by
  induction script generalizing writer with
  | nil => simp [run?, run, Script.stepsFrom]
  | cons instruction script ih =>
      have onward : writer.run? (instruction :: script) =
        (writer.step? instruction).bind fun next => next.run? script := List.foldlM_cons
      rw [onward, run_cons, Script.stepsFrom, List.forall_mem_cons, step?]
      by_cases refused : instruction = .dedent ∧ writer.level = 0
      · have notAllowed : ¬ StepAt.Allowed ⟨writer.level, instruction⟩ := fun allowed =>
          absurd refused.2 (Nat.ne_of_gt (allowed refused.1))
        rw [if_pos refused]
        simp [notAllowed]
      · have allowed : StepAt.Allowed ⟨writer.level, instruction⟩ := fun leaves =>
          Nat.pos_of_ne_zero fun zero => refused ⟨leaves, zero⟩
        have level : (writer.step instruction).level = StepAt.next ⟨writer.level, instruction⟩ := by
          rw [step_eq]
        rw [if_neg refused, Option.bind_some, ih, level]
        exact (and_iff_right allowed).symm

end Writer

namespace Script

theorem stepsFrom_append (writer : Writer) (first second : Script) :
    (first ++ second).stepsFrom writer.level =
      first.stepsFrom writer.level ++ second.stepsFrom (writer.run first).level := by
  induction first generalizing writer with
  | nil => rfl
  | cons instruction first ih =>
      have onward := ih (writer.step instruction)
      rw [Writer.step_eq] at onward
      rw [Writer.run_cons, Writer.step_eq, List.cons_append, stepsFrom, stepsFrom, onward, List.cons_append]

/-- Steps that are allowed where a script starts are the same steps when it starts deeper. -/
theorem stepsFrom_add {level : Nat} {script : Script}
    (allowed : ∀ step ∈ script.stepsFrom level, step.Allowed) (levels : Nat) :
    script.stepsFrom (level + levels) = (script.stepsFrom level).map (StepAt.deeper levels) := by
  induction script generalizing level with
  | nil => rfl
  | cons instruction script ih =>
      obtain ⟨here, later⟩ := List.forall_mem_cons.mp allowed
      have next : StepAt.next ⟨level + levels, instruction⟩ = StepAt.next ⟨level, instruction⟩ + levels :=
        StepAt.next_deeper levels here
      rw [stepsFrom, stepsFrom, next, ih later, List.map_cons]
      rfl

/-- The texts that a script adds when it starts deeper are the same, with more spaces in front of its lines. -/
theorem map_text_stepsFrom {level : Nat} {script : Script}
    (allowed : ∀ step ∈ script.stepsFrom level, step.Allowed) (levels : Nat) :
    (script.stepsFrom (level + levels)).map StepAt.text =
      (script.stepsFrom level).map fun step => step.extraSpaces levels ++ step.text := by
  rw [stepsFrom_add allowed, List.map_map]
  exact List.map_congr_left fun step _ => step.text_deeper levels

/-- Behind a step that leaves level zero a line stays where it is. -/
example : Writer.run? .empty [.dedent, .line "end"] = none ∧
    (stepsFrom 0 [.dedent, .line "end"]).map StepAt.text = ["", "end\n"] ∧
    (stepsFrom 1 [.dedent, .line "end"]).map StepAt.text = ["", "end\n"] := by
  decide +kernel

/-! ## Balanced scripts -/

/-- Lines, blank lines and bodies one level deeper, with at most so many bodies inside each other. -/
inductive Balanced : Nat → Script → Prop
  | nil (depth : Nat) : Balanced depth []
  | blank (depth : Nat) : Balanced depth [.blank]
  | line (depth : Nat) (text : String) : Balanced depth [.line text]
  | append {depth : Nat} {first second : Script} :
      Balanced depth first → Balanced depth second → Balanced depth (first ++ second)
  | indented {depth : Nat} {body : Script} : Balanced depth body → Balanced (depth + 1) (indented body)

variable {depth : Nat} {script : Script}

theorem balanced_lines (depth : Nat) (texts : List String) : Balanced depth (lines texts) := by
  induction texts with
  | nil => exact .nil depth
  | cons text texts ih => exact (Balanced.line depth text).append ih

/-- More depth does no harm. -/
theorem Balanced.mono (balanced : script.Balanced depth) : script.Balanced (depth + 1) := by
  induction balanced with
  | nil => exact .nil _
  | blank => exact .blank _
  | line _ text => exact .line _ text
  | append _ _ first second => exact first.append second
  | indented _ ih => exact ih.indented

theorem Balanced.block (body : script.Balanced depth) (head foot : String) :
    Balanced (depth + 1) (block head script foot) :=
  ((Balanced.line _ head).append body.indented).append (.line _ foot)

theorem balanced_separated {scripts : List Script} (balanced : ∀ script ∈ scripts, Balanced depth script) :
    Balanced depth (separated scripts) := by
  induction scripts with
  | nil => exact .nil depth
  | cons first rest ih =>
      obtain ⟨here, later⟩ := List.forall_mem_cons.mp balanced
      cases rest with
      | nil =>
          rw [separated, List.intercalate_singleton]
          exact here
      | cons second rest =>
          rw [separated, List.intercalate_cons_cons]
          exact (here.append (.blank depth)).append (ih later)

theorem balanced_separated_map {α : Type} {scriptOf : α → Script} (balanced : ∀ item, Balanced depth (scriptOf item))
    (items : List α) : Balanced depth (separated (items.map scriptOf)) :=
  balanced_separated (List.forall_mem_map.mpr fun item _ => balanced item)

/-- A balanced script ends at the level where it starts. -/
theorem Balanced.level_run (balanced : script.Balanced depth) (writer : Writer) :
    (writer.run script).level = writer.level := by
  induction balanced generalizing writer with
  | nil | blank | line => rfl
  | append _ _ first second => rw [Writer.run_append, second, first]
  | @indented _ body _ ih =>
      have onward : writer.run (Script.indented body) =
        ((writer.step .indent).run body).step .dedent := Writer.run_append _ body [.dedent]
      rw [onward]
      simp only [Writer.step, ih, Nat.add_sub_cancel]

/-- The steps of a body one level deeper. -/
theorem Balanced.stepsFrom_indented (balanced : script.Balanced depth) (level : Nat) :
    (Script.indented script).stepsFrom level =
      ⟨level, .indent⟩ :: script.stepsFrom (level + 1) ++ [⟨level + 1, .dedent⟩] := by
  -- The body ends where it starts, and there the level is left.
  have body := stepsFrom_append ⟨level + 1, ""⟩ script [.dedent]
  rw [balanced.level_run] at body
  exact congrArg (⟨level, .indent⟩ :: ·) body

/-- The steps of a balanced script are at most its depth deeper than the level where it starts, and those that leave a
level are deeper than that. -/
theorem Balanced.level_stepsFrom (balanced : script.Balanced depth) {level : Nat} :
    ∀ step ∈ script.stepsFrom level,
      level ≤ step.level ∧ step.level ≤ level + depth ∧ (step.instruction = .dedent → level < step.level) := by
  induction balanced generalizing level with
  | nil => simp [stepsFrom]
  | blank | line => simp [stepsFrom]
  | @append _ first second balanced _ ihFirst ihSecond =>
      have parts := stepsFrom_append ⟨level, ""⟩ first second
      rw [balanced.level_run] at parts
      rw [parts]
      exact List.forall_mem_append.mpr ⟨ihFirst, ihSecond⟩
  | indented body ih =>
      -- The body starts one level deeper, so that all of it is deeper than the step that enters it.
      rw [body.stepsFrom_indented]
      intro step mem
      simp only [List.cons_append, List.mem_cons, List.mem_append, List.not_mem_nil, or_false] at mem
      rcases mem with rfl | inside | rfl
      · simp
      · obtain ⟨lower, upper, leaves⟩ := ih step inside
        refine ⟨by omega, by omega, fun dedent => ?_⟩
        have := leaves dedent
        omega
      · simp

/-- No step of a balanced script leaves level zero. -/
theorem Balanced.allowed (balanced : script.Balanced depth) (level : Nat) :
    ∀ step ∈ script.stepsFrom level, step.Allowed := by
  intro step mem leaves
  have := (balanced.level_stepsFrom step mem).2.2 leaves
  omega

end Script

end ApiBindings.Binding
