/-!
# Scripts of lines

Emitted code is written line by line at a level of indentation.  A script says what to write: lines,
blank lines, and where the level goes up and down.  A writer carries a script out; each level indents a
line by four spaces, and blank lines are not indented.

Emitters change the level by `indented` only, which goes up and down again, so every script they build
ends at the level where it starts.
-/

namespace ApiBindings.Binding

set_option autoImplicit false

/-! ## Scripts -/

/-- One step of writing code. -/
inductive Instruction where
  | indent
  | dedent
  | blank
  | line (text : String)
  deriving DecidableEq, Repr

/-- What to write, step by step. -/
abbrev Script := List Instruction

namespace Script

/-- A script of lines at one level. -/
def lines (texts : List String) : Script := texts.map .line

/-- A script one level deeper. -/
def indented (body : Script) : Script := .indent :: body ++ [.dedent]

/-- A head line, a body one level deeper, and a foot line. -/
def block (head : String) (body : Script) (foot : String) : Script :=
  .line head :: indented body ++ [.line foot]

/-- Scripts with a blank line between each two. -/
def separated (scripts : List Script) : Script := List.intercalate [.blank] scripts

end Script

/-! ## Writing -/

/-- Code under construction: the level of indentation and the text so far. -/
structure Writer where
  level : Nat
  output : String
  deriving DecidableEq, Repr, Inhabited

namespace Writer

/-- A writer that has written nothing. -/
def empty : Writer := ⟨0, ""⟩

/-- The spaces of a level of indentation. -/
def indentation (level : Nat) : String := String.ofList (List.replicate (4 * level) ' ')

/-- Carries out one step; the level never falls below zero. -/
def step (writer : Writer) : Instruction → Writer
  | .indent => { writer with level := writer.level + 1 }
  | .dedent => { writer with level := writer.level - 1 }
  | .blank => { writer with output := writer.output ++ "\n" }
  | .line text =>
    { writer with output := writer.output ++ indentation writer.level ++ text ++ "\n" }

/-- Carries out a script. -/
def run (writer : Writer) (script : Script) : Writer := script.foldl step writer

/-- A script in two parts is carried out part by part. -/
theorem run_append (writer : Writer) (first second : Script) :
    writer.run (first ++ second) = (writer.run first).run second :=
  List.foldl_append

end Writer

/-- The text of a script that starts without indentation. -/
def Script.text (script : Script) : String := (Writer.empty.run script).output

end ApiBindings.Binding
