import ApiBindings.Binding.Emit
import ApiBindings.Store.Load

/-!
# Generating bindings

The bindings of a registry are written to a directory, one file per artifact.  Artifacts may be emitted at
the same time, on the threads of the process or on a pool of their own; what is emitted does not depend on
it.  Nothing is touched before the registry has been loaded, the pool has been started and every artifact
has been emitted.  Files are written one after another, so those in front of a file that cannot be written
stay.
-/

namespace ApiBindings

set_option autoImplicit false

/-- What to generate, and where. -/
structure GenerateOptions where
  /-- The file with the registry's document. -/
  registry : String
  /-- The directory to write to, which is made if it does not exist. -/
  directory : String
  /-- The artifacts to write, in this order. -/
  artifacts : List Artifact := Artifact.all
  /-- Whether artifacts may be emitted at the same time. -/
  parallel : Bool := true
  /-- The threads of a pool of its own; without a number, those of the process are used. -/
  jobs : Option Nat := none
  deriving DecidableEq, Repr

/-- Why bindings were not generated. -/
inductive GenerateError where
  | unloadable (error : LoadError)
  | poolless (message : String)
  | unwritable (path : String) (fault : StoreFault)
  deriving DecidableEq, Repr

/-- The wording of a failure to generate. -/
def GenerateError.message : GenerateError → String
  | unloadable error => error.message
  | poolless message => "failed to start the emission thread pool: " ++ message
  | unwritable path fault => "failed to write `" ++ path ++ "`: " ++ fault.message

/-- The problems of a registry that was refused. -/
def GenerateError.problems : GenerateError → List Problem
  | unloadable error => error.problems
  | poolless _ | unwritable _ _ => []

variable {m : Type → Type} [Monad m]

/-- Starts the pool that the options ask for: one of several threads, if they are to work at the same time. -/
def GenerateOptions.startPool [ThreadPools m] (options : GenerateOptions) : m (Except String Unit) :=
  match options.jobs with
  | some threads =>
    if 1 < threads && options.parallel then ThreadPools.startPool threads else return .ok ()
  | none => return .ok ()

variable [FileStore m]

/-- Writes files to a directory in their order, and gives their paths. -/
def writeFiles (directory : String) :
    List Binding.GeneratedFile → m (Except GenerateError (List String))
  | [] => return .ok []
  | file :: files => do
    let path := Path.join directory file.artifact.fileName
    match ← FileStore.writeFile path file.code with
    | .error fault => return .error (.unwritable path fault)
    | .ok () => return (← writeFiles directory files).map (path :: ·)

/-- Generates bindings, and gives the paths of the files written. -/
def generate [ThreadPools m] (options : GenerateOptions) : m (Except GenerateError (List String)) := do
  match ← loadRegistry options.registry with
  | .error error => return .error (.unloadable error)
  | .ok registry =>
    match ← options.startPool with
    | .error message => return .error (.poolless message)
    | .ok () =>
      let files := Binding.emit registry options.artifacts
      match ← FileStore.makeDirectories options.directory with
      | .error fault => return .error (.unwritable options.directory fault)
      | .ok () => writeFiles options.directory files

end ApiBindings
