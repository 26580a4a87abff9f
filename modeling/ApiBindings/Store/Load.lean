import ApiBindings.Registry.Build
import ApiBindings.Store.Basic

/-!
# Loading a registry

A registry is loaded from the file that holds its document.  Loading fails if the file cannot be read,
or if what it holds is refused.
-/

namespace ApiBindings

set_option autoImplicit false

/-- Why a registry was not loaded. -/
inductive LoadError where
  | unreadable (path : String) (fault : StoreFault)
  | refused (error : BuildError)
  deriving DecidableEq, Repr

/-- The wording of a failure to load. -/
def LoadError.message : LoadError → String
  | unreadable path fault => "failed to read registry `" ++ path ++ "`: " ++ fault.message
  | refused error => error.message

/-- The problems of a registry that was read and refused. -/
def LoadError.problems : LoadError → List Problem
  | unreadable _ _ => []
  | refused error => error.problems

variable {m : Type → Type} [Monad m] [FileStore m]

/-- Loads the registry of a file. -/
def loadRegistry (path : String) : m (Except LoadError Registry) := do
  match ← FileStore.readText path with
  | .error fault => return .error (.unreadable path fault)
  | .ok source => return (Registry.ofText source).mapError .refused

end ApiBindings
