import ApiBindings.Document.Decode
import ApiBindings.Registry.Check

/-!
# Building a registry

A document without problems is a registry; any problem refuses the whole document.  A text becomes a
registry by way of its document.
-/

namespace ApiBindings

set_option autoImplicit false

/-- Why there is no registry. -/
inductive BuildError where
  /-- The text is no document. -/
  | malformed (fault : String)
  /-- The document has problems, in the order of their discovery. -/
  | invalid (problems : List Problem)
  deriving DecidableEq, Repr

/-- The problems of a refused document. -/
def BuildError.problems : BuildError → List Problem
  | malformed _ => []
  | invalid problems => problems

/-- The wording of a refusal. -/
def BuildError.message : BuildError → String
  | malformed fault => "malformed registry document: " ++ fault
  | invalid problems => Problem.summary problems

/-- The registry of a document, or its problems. -/
def Document.build (document : Document) : Except (List Problem) Registry :=
  if document.problems.isEmpty then .ok document.registry else .error document.problems

/-- The registry of a document's text. -/
def Registry.ofText (source : String) : Except BuildError Registry :=
  match Document.decode source with
  | .error fault => .error (.malformed fault)
  | .ok document => document.build.mapError .invalid

end ApiBindings
