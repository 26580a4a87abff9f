import ApiBindings.Text.Terminal

/-!
# Arguments of a command

A command accepts options, which start with hyphens, and positional arguments, which are known by their
order.  This module describes the arguments that a command accepts and reads a command line by such a
description.

Reading goes from left to right.  The values of an argument are gathered first and checked when the next
argument starts, so the first fault in that order is the one that is reported; a word that is no argument
at all is reported before values that are still being gathered.
-/

namespace ApiBindings.CommandLine

set_option autoImplicit false

open Text (emphasised)

/-! ## Descriptions -/

/-- An argument that a command accepts.  An option has a long or a short name, a positional argument has
neither. -/
structure Argument where
  long : Option String := none
  short : Option Char := none
  /-- What stands for the value in messages; a flag takes no value. -/
  placeholder : Option String := none
  required : Bool := false
  /-- Whether the argument may be given more than once. -/
  many : Bool := false
  /-- Cuts a value into several. -/
  split : String → List String := fun value => [value]
  /-- What is wrong with a value. -/
  check : String → Option String := fun _ => none
  /-- Whether an empty value counts as none. -/
  needsText : Bool := false

/-- An option with a value that is given at most once. -/
def Argument.option (long : String) (short : Option Char) (placeholder : String) : Argument :=
  { long := some long, short, placeholder := some placeholder }

/-- An option without a value. -/
def Argument.flag (long : String) (short : Char) : Argument :=
  { long := some long, short := some short }

/-- A required positional argument. -/
def Argument.positional (placeholder : String) : Argument :=
  { placeholder := some placeholder, required := true }

/-- How messages name the argument. -/
def Argument.name (argument : Argument) : String :=
  match argument.long, argument.placeholder with
  | some long, some placeholder => "--" ++ long ++ " <" ++ placeholder ++ ">"
  | some long, none => "--" ++ long
  | none, placeholder => "<" ++ placeholder.getD "" ++ ">"

/-! ## Outcomes -/

/-- What is wrong with a command line. -/
inductive UsageError where
  | unexpectedArgument (text : String)
  | unexpectedValue (value argument : String)
  | valueMissing (argument : String)
  | repeated (argument : String)
  | invalidValue (value argument reason : String)
  | requiredMissing
  | unknownCommand (name : String)
  | commandMissing
  deriving DecidableEq, Repr

/-- The wording of a usage error, with what it is about emphasised. -/
def UsageError.message : UsageError → String
  | unexpectedArgument text => "unexpected argument '" ++ emphasised text ++ "' found"
  | unexpectedValue value argument =>
    "unexpected value '" ++ emphasised value ++ "' for '" ++ emphasised argument
      ++ "' found; no more were expected"
  | valueMissing argument =>
    "a value is required for '" ++ emphasised argument ++ "' but none was supplied"
  | repeated argument =>
    "the argument '" ++ emphasised argument ++ "' cannot be used multiple times"
  | invalidValue value argument reason =>
    "invalid value '" ++ emphasised value ++ "' for '" ++ emphasised argument ++ "': " ++ reason
  | requiredMissing => "the following required arguments were not provided:"
  | unknownCommand name => "unrecognized subcommand '" ++ emphasised name ++ "'"
  | commandMissing =>
    "'" ++ emphasised "vkbind" ++ "' requires a subcommand but one was not provided"

/-- Why reading stops before the end of the command line. -/
inductive Stop where
  /-- The version was asked for. -/
  | version
  /-- Help was asked for. -/
  | help
  /-- Nothing was asked for. -/
  | nothing
  | usage (error : UsageError)
  deriving DecidableEq, Repr

/-! ## Reading -/

/-- The arguments read so far. -/
structure Matches where
  /-- The argument whose values are being gathered, with these values. -/
  pending : Option (Argument × List String) := none
  /-- The names of the arguments given, with their values, the latest first. -/
  given : List (String × List String) := []

/-- No arguments. -/
def Matches.empty : Matches := {}

/-- All values given for an argument, in their order. -/
def Matches.values (found : Matches) (argument : Argument) : List String :=
  (found.given.reverse.filter (·.1 == argument.name)).flatMap (·.2)

/-- What is wrong with one value of an argument. -/
def Argument.fault? (argument : Argument) (value : String) : Option UsageError :=
  if argument.needsText && value.isEmpty then some (.valueMissing argument.name)
  else (argument.check value).map (.invalidValue value argument.name)

/-- Records an argument with its values, once they are known to be in order. -/
def Matches.record (found : Matches) (argument : Argument) (values : List String) :
    Except Stop Matches :=
  if argument.placeholder.isSome && values.isEmpty then
    .error (.usage (.valueMissing argument.name))
  else if !argument.many && found.given.any (·.1 == argument.name) then
    .error (.usage (.repeated argument.name))
  else
    let values := values.flatMap argument.split
    match values.findSome? argument.fault? with
    | some error => .error (.usage error)
    | none => .ok { found with given := (argument.name, values) :: found.given }

/-- Records the argument whose values are being gathered. -/
def Matches.settle (found : Matches) : Except Stop Matches :=
  match found.pending with
  | none => .ok found
  | some (argument, values) => { found with pending := none }.record argument values

/-- Records an argument that comes with all its values. -/
def Matches.add (found : Matches) (argument : Argument) (values : List String) :
    Except Stop Matches := do
  (← found.settle).record argument values

/-- Starts gathering the values of an argument. -/
def Matches.start (found : Matches) (argument : Argument) (values : List String) :
    Except Stop Matches :=
  return { ← found.settle with pending := some (argument, values) }

/-- Adds a value to those being gathered. -/
def Matches.push (found : Matches) (value : String) : Matches :=
  { found with pending := found.pending.map fun (argument, values) => (argument, values ++ [value]) }

/-- The flag that asks for help; every command accepts it. -/
def helpFlag : Argument := .flag "help" 'h'

/-- The flag that asks for the version. -/
def versionFlag : Argument := .flag "version" 'V'

/-- Records a flag; the flags that ask for a text end the reading. -/
def Matches.addFlag (found : Matches) (flag : Argument) : Except Stop Matches := do
  let found ← found.settle
  if flag.name = helpFlag.name then .error .help
  else if flag.name = versionFlag.name then .error .version
  else found.record flag []

/-- Reads a long option, with the value behind its equals sign if there is one.  The flag tells whether
the option waits for its value. -/
def readLong (options : List Argument) (found : Matches) (name : String) (value : Option String) :
    Except Stop (Matches × Bool) := do
  match options.find? (·.long == some name) with
  | none => .error (.usage (.unexpectedArgument ("--" ++ name)))
  | some option =>
    match option.placeholder, value with
    | some _, some value => return (← found.add option [value], false)
    | some _, none => return (← found.start option [], true)
    | none, some value => .error (.usage (.unexpectedValue value option.name))
    | none, none => return (← found.addFlag option, false)

/-- Reads the letters of short options that stand together; what follows the letter of an option with a
value is the value. -/
def readShort (options : List Argument) (found : Matches) :
    List Char → Except Stop (Matches × Bool)
  | [] => .ok (found, false)
  | letter :: rest => do
    match options.find? (·.short == some letter) with
    | none => .error (.usage (.unexpectedArgument (String.ofList ['-', letter])))
    | some option =>
      if option.placeholder.isNone then readShort options (← found.addFlag option) rest
      else
        match rest with
        | [] => return (← found.start option [], true)
        | '=' :: value => return (← found.add option [String.ofList value], false)
        | value => return (← found.add option [String.ofList value], false)

/-- An option as it is written. -/
inductive Written where
  | long (name : String) (value : Option String)
  | short (letters : List Char)
  | endOfOptions
  | word
  deriving DecidableEq, Repr

/-- Tells options from other words. -/
def Written.ofWord (word : String) : Written :=
  match word.toList with
  | ['-', '-'] => .endOfOptions
  | '-' :: '-' :: text =>
    let name := text.takeWhile (· ≠ '=')
    let rest := text.drop name.length
    .long (String.ofList name) (if rest.isEmpty then none else some (String.ofList (rest.drop 1)))
  | '-' :: c :: letters => .short (c :: letters)
  | _ => .word

/-- Reads a word that is no option as the next positional argument, and gives the positional arguments
that may follow it. -/
def readPositional (positionals : List Argument) (found : Matches) (word : String) :
    Except Stop (Matches × List Argument) := do
  match positionals with
  | [] => .error (.usage (.unexpectedArgument word))
  | argument :: later =>
    let gathering := found.pending.any fun (pending, _) => pending.name == argument.name
    if argument.many && gathering then return (found.push word, positionals)
    else return (← found.start argument [word], if argument.many then positionals else later)

/-- Reads the words of a command.  `waiting` tells that an option waits for its value, and `ended` that
no options follow. -/
def readWords (options positionals : List Argument) (waiting ended : Bool) (found : Matches) :
    List String → Except Stop Matches
  | [] => found.settle
  | word :: words => do
    match if ended then .word else Written.ofWord word with
    | .endOfOptions => readWords options positionals waiting true found words
    | .long name value =>
      let (found, waiting) ← readLong options found name value
      readWords options positionals waiting false found words
    | .short letters =>
      let (found, waiting) ← readShort options found letters
      readWords options positionals waiting false found words
    | .word =>
      if waiting && !ended then readWords options positionals false false (found.push word) words
      else
        let (found, positionals) ← readPositional positionals found word
        readWords options positionals false ended found words

/-- Reads the words of a command that accepts some options and positional arguments. -/
def readCommand (options positionals : List Argument) (words : List String) :
    Except Stop Matches := do
  let found ← readWords (options ++ [helpFlag]) positionals false false .empty words
  if (options ++ positionals).all fun a => !a.required || found.given.any (·.1 == a.name) then
    return found
  else .error (.usage .requiredMissing)

/-- Reads the options in front of a command, up to the command's name.  The flag tells that no options
follow, in which case no command does either. -/
def readLeading (options : List Argument) (found : Matches) :
    List String → Except Stop (Matches × Bool × List String)
  | [] => .ok (found, false, [])
  | word :: words => do
    match Written.ofWord word with
    | .endOfOptions => return (found, true, words)
    | .long name value =>
      let (found, _) ← readLong options found name value
      readLeading options found words
    | .short letters =>
      let (found, _) ← readShort options found letters
      readLeading options found words
    | .word => return (found, false, word :: words)

end ApiBindings.CommandLine
