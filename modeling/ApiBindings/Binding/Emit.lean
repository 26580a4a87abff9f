import ApiBindings.Artifact
import ApiBindings.Binding.Aggregates
import ApiBindings.Binding.CommandTable
import ApiBindings.Binding.Constants
import ApiBindings.Binding.Enumerations
import ApiBindings.Binding.Handles
import ApiBindings.Types.SharedMemo

/-!
# Emission

The code of an artifact: a banner, then the declarations of one family of entities.  Emission never
fails, since a registry has been checked before; types that nothing declares are passed through as they
are written.

Code is a computation that asks how names resolve.  `emit` runs the selected artifacts one after another
over one memo, `emitTogether` runs them side by side over one memo, and `code` is the text of one artifact
alone.
-/

namespace ApiBindings.Binding

set_option autoImplicit false

/-- The comment at the top of an artifact. -/
def banner (artifact : Artifact) : String :=
  "// " ++ artifact.fileName ++ ": generated by vkbind from the API registry. Do not edit."

/-- The declarations of an artifact. -/
def bodyScript (registry : Registry) : Artifact → Resolving Script
  | .constants => return constantScript (constantDeclarations registry)
  | .delegates => return Script.separated ((← functionTypes registry).map FunctionType.script)
  | .enums => return Script.separated ((enumDeclarations registry).map EnumDeclaration.script)
  | .unions =>
    return Script.separated ((← unionDeclarations registry).map AggregateDeclaration.script)
  | .structs =>
    return Script.separated ((← structDeclarations registry).map AggregateDeclaration.script)
  | .handles => return Script.separated ((handleDeclarations registry).map HandleDeclaration.script)
  | .commands => return (← commandTable registry).script

/-- An artifact, as a script. -/
def artifactScript (registry : Registry) (artifact : Artifact) : Resolving Script :=
  return .line (banner artifact) :: .blank :: (← bodyScript registry artifact)

/-- The text of an artifact, as a computation that asks how names resolve. -/
def artifactText (registry : Registry) (artifact : Artifact) : Resolving String :=
  return (← artifactScript registry artifact).text

/-- The text of an artifact. -/
def code (registry : Registry) (artifact : Artifact) : String :=
  (artifactText registry artifact).eval registry.resolve

/-- An artifact with its text. -/
structure GeneratedFile where
  artifact : Artifact
  code : String
  deriving DecidableEq, Repr

/-- The files of a selection of artifacts, in its order; an artifact that is selected again is emitted
again. -/
def emit (registry : Registry) (artifacts : List Artifact) : List GeneratedFile :=
  let files : Resolving (List GeneratedFile) := artifacts.mapM fun artifact =>
    return ⟨artifact, ← artifactText registry artifact⟩
  (files.run registry.resolve .empty).1

/-- The file of an artifact, as a computation that asks how names resolve. -/
def generatedFile (registry : Registry) (artifact : Artifact) : Resolving GeneratedFile :=
  return ⟨artifact, ← artifactText registry artifact⟩

/-- The files of a selection, in its order, once they are finished: every entry of the selection is emitted
by a client of its own, and the clients take their steps over one memo in the order of a schedule. -/
def emitTogether (registry : Registry) (artifacts : List Artifact) (schedule : List Nat) :
    Option (List GeneratedFile) :=
  ((Resolving.Shared.start (artifacts.map (generatedFile registry))).run registry.resolve
    schedule).values?

end ApiBindings.Binding
