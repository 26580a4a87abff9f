import ApiBindings.Artifact
import ApiBindings.CommandLine.Argument
import ApiBindings.Text.Blank

/-!
# What a command line asks for

The three commands of the program and the arguments they accept, and `Action.ofWords`, which reads a
command line.  A command's name may come after flags of the program as a whole.
-/

namespace ApiBindings.CommandLine

set_option autoImplicit false

/-- What the program is asked to do. -/
inductive Action where
  /-- Write bindings; at most `jobs` artifacts may be emitted at a time, which does not change them. -/
  | generate (registry directory : String) (artifacts : List Artifact) (jobs : Option Nat)
  /-- Show how type names resolve. -/
  | resolve (registry : String) (types : List String)
  /-- Print the sizes of the collections. -/
  | stats (registry : String)
  deriving DecidableEq, Repr

/-! ## Values -/

/-- What is wrong with a number of jobs. -/
inductive JobsFault where
  | empty
  | notANumber
  | tooLarge
  | zero
  deriving DecidableEq, Repr

/-- The wording of a wrong number of jobs. -/
def JobsFault.message : JobsFault → String
  | empty => "cannot parse integer from empty string"
  | notANumber => "invalid digit found in string"
  | tooLarge => "number too large to fit in target type"
  | zero => "number would be zero for non-zero type"

/-- Appends digits to a number of 64 bits; the first character that is no digit, or that makes the number
too large, is the fault. -/
def readDigits (value : Nat) : List Char → Except JobsFault Nat
  | [] => .ok value
  | c :: rest =>
    if !c.isDigit then .error .notANumber
    else
      let next := value * 10 + (c.toNat - '0'.toNat)
      if 2 ^ 64 ≤ next then .error .tooLarge else readDigits next rest

/-- Reads a number of jobs, which is positive and may have a plus in front. -/
def readJobs (text : String) : Except JobsFault Nat := do
  let digits := match text.toList with
    | '+' :: c :: rest => c :: rest
    | other => other
  if digits.isEmpty then throw .empty
  let value ← readDigits 0 digits
  if value = 0 then throw .zero
  return value

/-- What is wrong with a value that a reader refuses. -/
def refusal {ε α : Type} (message : ε → String) : Except ε α → Option String
  | .ok _ => none
  | .error fault => some (message fault)

/-- The pieces of a value between commas, empty ones included. -/
def commaPieces (value : String) : List String :=
  (Text.pieces (· == ',') value.toList).map String.ofList

/-! ## Arguments -/

/-- More output; it goes to the log and changes nothing else. -/
def verboseFlag : Argument := .flag "verbose" 'v'

/-- The registry's file. -/
def registryArgument : Argument := { Argument.positional "REGISTRY" with needsText := true }

/-- The directory to write to. -/
def outOption : Argument :=
  { Argument.option "out" (some 'o') "DIR" with required := true, needsText := true }

/-- The artifacts to write. -/
def onlyOption : Argument :=
  { Argument.option "only" none "ARTIFACT" with
    many := true
    split := commaPieces
    check := fun name =>
      if (Artifact.ofName? name).isSome then none else some (Artifact.unknownMessage name) }

/-- The number of jobs. -/
def jobsOption : Argument :=
  { Argument.option "jobs" (some 'j') "JOBS" with
    check := fun value => refusal JobsFault.message (readJobs value) }

/-- The type names to resolve. -/
def typesArgument : Argument := { Argument.positional "TYPE" with many := true }

/-! ## Commands -/

/-- The artifacts of the given names, each once; all of them if no name is given. -/
def selectedArtifacts (names : List String) : List Artifact :=
  if names.isEmpty then Artifact.all else (names.filterMap Artifact.ofName?).eraseDups

/-- The single value of a required argument. -/
def Matches.value (found : Matches) (argument : Argument) : String :=
  (found.values argument).headD ""

/-- Reads the arguments of the command that generates bindings. -/
def readGenerate (words : List String) : Except Stop Action := do
  let found ← readCommand [verboseFlag, outOption, onlyOption, jobsOption] [registryArgument] words
  return .generate (found.value registryArgument) (found.value outOption)
    (selectedArtifacts (found.values onlyOption))
    ((found.values jobsOption).head?.bind fun value => (readJobs value).toOption)

/-- Reads the arguments of the command that resolves type names. -/
def readResolve (words : List String) : Except Stop Action := do
  let found ← readCommand [verboseFlag] [registryArgument, typesArgument] words
  return .resolve (found.value registryArgument) (found.values typesArgument)

/-- Reads the arguments of the command that prints sizes. -/
def readStats (words : List String) : Except Stop Action := do
  let found ← readCommand [verboseFlag] [registryArgument] words
  return .stats (found.value registryArgument)

/-- The commands by name, apart from the one that shows help. -/
def commands : List (String × (List String → Except Stop Action)) :=
  [("generate", readGenerate), ("resolve", readResolve), ("stats", readStats)]

/-- The name of the command that shows help, also help on one command. -/
def helpName : String := "help"

/-- Whether a word names a command. -/
def isCommand (name : String) : Bool := name == helpName || (commands.lookup name).isSome

/-- Reads what help is asked for: nothing, or one command, as no command has commands of its own. -/
def readHelp : List String → Stop
  | [] => .help
  | name :: others =>
    if isCommand name then
      match others with
      | [] => .help
      | other :: _ => .usage (.unknownCommand other)
    else .usage (.unknownCommand name)

/-- Reads a command line.  The words of the program as a whole come first, then a command and its
arguments. -/
def Action.ofWords (words : List String) : Except Stop Action := do
  let (found, ended, rest) ← readLeading [verboseFlag, helpFlag, versionFlag] .empty words
  match rest with
  | [] => throw (if found.given.isEmpty then .nothing else .usage .commandMissing)
  | name :: arguments =>
    if !isCommand name then throw (.usage (.unknownCommand name))
    if ended then throw (.usage (.unexpectedArgument name))
    match commands.lookup name with
    | some read => read arguments
    | none => throw (readHelp arguments)

end ApiBindings.CommandLine
