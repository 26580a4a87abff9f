/-!
# Artifacts

The bindings of a registry are written as seven files, one per family of entities.  An artifact is one
of these files before it has content.
-/

namespace ApiBindings

set_option autoImplicit false

/-- One file of the bindings. -/
inductive Artifact where
  | constants
  | delegates
  | enums
  | unions
  | structs
  | handles
  | commands
  deriving DecidableEq, Repr, Inhabited

namespace Artifact

/-- Every artifact, in the order in which they are emitted by default. -/
def all : List Artifact := [constants, delegates, enums, unions, structs, handles, commands]

/-- The artifact's name. -/
def name : Artifact → String
  | constants => "constants"
  | delegates => "delegates"
  | enums => "enums"
  | unions => "unions"
  | structs => "structs"
  | handles => "handles"
  | commands => "commands"

/-- The name of the artifact's file. -/
def fileName (artifact : Artifact) : String := artifact.name ++ ".rs"

/-- The artifact of a name, which is matched exactly. -/
def ofName? (name : String) : Option Artifact := all.find? (·.name == name)

/-- What is said of a name that no artifact has. -/
def unknownMessage (name : String) : String :=
  "unknown artifact `" ++ name ++ "`, expected one of: " ++ ", ".intercalate (all.map Artifact.name)

/-- Every artifact is listed. -/
theorem mem_all (artifact : Artifact) : artifact ∈ all := by
  cases artifact <;> decide

/-- Reading a name gives back the artifact that has it. -/
theorem ofName?_name (artifact : Artifact) : ofName? artifact.name = some artifact := by
  cases artifact <;> decide

end Artifact

end ApiBindings
