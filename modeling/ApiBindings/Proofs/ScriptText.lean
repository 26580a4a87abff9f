import ApiBindings.Binding.Script
import Mathlib.Data.List.Forall2

/-!
# The text of a script

A script that goes back up as often as it goes down writes a text of its own: wherever it starts, the text is
added to the output and the level is the one from before (`Script.Writes`).  What a script writes is then put
together from what its parts write, one lemma for each way of putting scripts together.
-/

namespace ApiBindings.Binding

set_option autoImplicit false

namespace Writer

theorem run_lines (writer : Writer) (texts : List String) :
    writer.run (Script.lines texts) = ⟨writer.level, writer.output ++
      String.join (texts.map fun text => indentation writer.level ++ text ++ "\n")⟩ := by
  induction texts generalizing writer with
  | nil => simp [Script.lines, run]
  | cons text texts ih =>
      have onward : writer.run (Script.lines (text :: texts)) =
        (writer.step (.line text)).run (Script.lines texts) := rfl
      rw [onward, ih, List.map_cons, String.join_cons]
      simp only [step, String.append_assoc]

/-- A line of code at a level of indentation. -/
def lineText (level : Nat) (text : String) : String := indentation level ++ text ++ "\n"

/-- Lines of code at a level of indentation. -/
def linesText (level : Nat) (texts : List String) : String := String.join (texts.map (lineText level))

theorem linesText_append (level : Nat) (texts more : List String) :
    linesText level (texts ++ more) = linesText level texts ++ linesText level more := by
  rw [linesText, linesText, linesText, List.map_append, String.join_append]

theorem lineText_zero (text : String) : lineText 0 text = text ++ "\n" := by
  have unindented : indentation 0 = "" := rfl
  rw [lineText, unindented, String.empty_append]

/-- Indentation can be written into the lines. -/
theorem linesText_eq_zero (level : Nat) (texts : List String) :
    linesText level texts = linesText 0 (texts.map (indentation level ++ ·)) := by
  have written : lineText 0 ∘ (indentation level ++ ·) = lineText level := funext fun _ => lineText_zero _
  rw [linesText, linesText, List.map_map, written]

theorem lineText_eq_zero (level : Nat) (text : String) :
    lineText level text = linesText 0 [indentation level ++ text] := by
  rw [← List.map_singleton (f := (indentation level ++ ·)), ← linesText_eq_zero]
  simp [linesText]

end Writer

namespace Script

open Writer

/-- Started at the level, the script adds the text to the output and ends at the level. -/
def Writes (level : Nat) (script : Script) (text : String) : Prop :=
  ∀ output, Writer.run ⟨level, output⟩ script = ⟨level, output ++ text⟩

variable {level : Nat} {script other : Script} {text more : String}

theorem Writes.text_eq (writes : script.Writes 0 text) : script.text = text := by
  rw [Script.text, Writer.empty, writes "", String.empty_append]

theorem writes_nil (level : Nat) : Writes level [] "" := by
  intro output
  rw [String.append_empty]
  rfl

theorem writes_blank (level : Nat) : Writes level [.blank] "\n" := fun _ => rfl

theorem Writes.append (first : script.Writes level text) (second : other.Writes level more) :
    Writes level (script ++ other) (text ++ more) := by
  intro output
  rw [run_append, first, second, String.append_assoc]

theorem writes_lines (level : Nat) (texts : List String) :
    Writes level (lines texts) (linesText level texts) :=
  fun output => run_lines ⟨level, output⟩ texts

theorem writes_line (level : Nat) (text : String) : Writes level [.line text] (lineText level text) := by
  intro output
  rw [lineText, ← String.append_assoc, ← String.append_assoc]
  rfl

theorem writes_indented (body : script.Writes (level + 1) text) :
    Writes level (indented script) text := by
  intro output
  have deeper : Writer.run ⟨level, output⟩ (Script.indented script) =
    Writer.run ⟨level + 1, output⟩ (script ++ [.dedent]) := rfl
  rw [deeper, run_append, body]
  rfl

theorem writes_block (body : script.Writes (level + 1) text) (head foot : String) :
    Writes level (block head script foot) (lineText level head ++ text ++ lineText level foot) :=
  ((writes_line level head).append (writes_indented body)).append (writes_line level foot)

theorem writes_separated {scripts : List Script} {texts : List String}
    (writes : List.Forall₂ (Writes level) scripts texts) :
    Writes level (separated scripts) ("\n".intercalate texts) := by
  induction writes with
  | nil =>
      rw [String.intercalate_nil]
      exact writes_nil level
  | cons first rest ih =>
      cases rest with
      | nil =>
          rw [separated, List.intercalate_singleton, String.intercalate_singleton]
          exact first
      | cons second rest =>
          rw [separated, List.intercalate_cons_cons, String.intercalate_cons_cons]
          exact (first.append (writes_blank level)).append ih

end Script

end ApiBindings.Binding
