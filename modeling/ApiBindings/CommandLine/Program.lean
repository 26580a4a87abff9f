import ApiBindings.CommandLine.Action
import ApiBindings.Registry.Stats
import ApiBindings.Store.Generate
import ApiBindings.Types.Resolution

/-!
# The program

What the program does with a command line: its output, its messages and its exit code.  The code is 0 on
success, 1 if the command failed, and 2 if the command line makes no sense.  Nothing is printed on
standard output by a command that fails.
-/

namespace ApiBindings.CommandLine

set_option autoImplicit false

/-- What a run of the program leaves behind, besides files. -/
structure Outcome where
  exitCode : UInt8
  output : String
  messages : String
  deriving DecidableEq, Repr

/-- The version and what prints it. -/
def versionText : String := "vkbind 0.1.0-alpha.8\n"

/-- What the program is for, and how its commands are called. -/
def helpText : String :=
  "Generate Rust FFI bindings from a Vulkan-style API registry\n\n"
    ++ "Usage: vkbind [OPTIONS] <COMMAND>\n\n"
    ++ "Commands:\n"
    ++ "  generate  Generate binding artifacts into a directory\n"
    ++ "  resolve   Show how type names resolve through typedefs and base types\n"
    ++ "  stats     Print collection sizes\n"

/-- A message as a line of its own. -/
def errorLine (message : String) : String := "error: " ++ message ++ "\n"

/-- Success with some output. -/
def Outcome.success (output : String) : Outcome := ⟨0, output, ""⟩

/-- Failure of a command. -/
def Outcome.failure (message : String) : Outcome := ⟨1, "", errorLine message⟩

/-- The message about a usage error.  It does not go to a terminal, so it has no control sequences. -/
def UsageError.text (error : UsageError) : String :=
  Text.plain (errorLine (error.message ++ "\n\nFor more information, try '"
    ++ Text.emphasised "--help" ++ "'."))

/-- What follows from a command line that asks for no action; with nothing asked for at all, help is shown
as if it were an error. -/
def Stop.outcome : Stop → Outcome
  | version => .success versionText
  | help => .success helpText
  | nothing => ⟨2, "", helpText⟩
  | usage error => ⟨2, "", error.text⟩

/-- Lines of text. -/
def unlines (lines : List String) : String := String.join (lines.map (· ++ "\n"))

variable {m : Type → Type} [Monad m] [FileStore m] [ThreadPools m]

/-- Carries out an action. -/
def Action.run : Action → m Outcome
  | generate registry directory artifacts jobs => do
    let parallel := jobs.all (1 < ·)
    match ← ApiBindings.generate { registry, directory, artifacts, parallel, jobs } with
    | .error error => return .failure error.message
    | .ok paths => return .success (unlines (paths.map ("wrote " ++ ·)))
  | resolve registry types => do
    match ← loadRegistry registry with
    | .error error => return .failure error.message
    | .ok registry => return .success (unlines ((resolutions registry types).map Resolution.text))
  | stats registry => do
    match ← loadRegistry registry with
    | .error error => return .failure error.message
    | .ok registry => return .success registry.stats.table

/-- Runs the program on the words of a command line. -/
def program (words : List String) : m Outcome :=
  match Action.ofWords words with
  | .error stop => return stop.outcome
  | .ok action => action.run

end ApiBindings.CommandLine
