import ApiBindings.CommandLine.Program

/-!
# The executable

The program on the files of the operating system.
-/

namespace ApiBindings

set_option autoImplicit false

/-- The words of the system for a fault without words of its own. -/
def systemText (code : UInt32) (details : String) : String :=
  details ++ " (os error " ++ toString code ++ ")"

/-- A failed call of the system as a fault. -/
def faultOfError : IO.Error → StoreFault
  | .noFileOrDirectory _ _ _ => .noSuchFile
  | .alreadyExists _ _ _ => .alreadyExists
  | .inappropriateType _ code _ => if code = 20 then .notADirectory else .isADirectory
  | .permissionDenied _ code details => .other (systemText code details)
  | .invalidArgument _ code details => .other (systemText code details)
  | .resourceExhausted _ code details => .other (systemText code details)
  | .otherError code details => .other (systemText code details)
  | error => .other (toString error)

/-- Runs a call of the system and keeps its failure as a value. -/
def attempt {α : Type} (call : IO α) : IO (Except StoreFault α) := do
  try
    return .ok (← call)
  catch error =>
    return .error (faultOfError error)

/-- Runs a call of the system on a path, which must be one that a path can be. -/
def attemptOn {α : Type} (path : String) (call : IO α) : IO (Except StoreFault α) :=
  if Path.hasNul path then return .error .nulInPath else attempt call

instance : FileStore IO where
  Handle := IO.FS.Handle
  readText path := do
    match ← attemptOn path (IO.FS.readBinFile path) with
    | .error fault => return .error fault
    | .ok bytes =>
      match String.fromUTF8? bytes with
      | some text => return .ok text
      | none => return .error .notUtf8
  createFile path := attemptOn path (IO.FS.Handle.mk path .write)
  writeAll file text := attempt (file.putStr text)
  flush file := attempt file.flush
  makeDirectory path := attemptOn path (IO.FS.createDir path)
  isDirectory path := (System.mkFilePath [path]).isDir

/-- The executable emits one artifact after another, so it goes without the pool that it is asked for. -/
instance : ThreadPools IO where
  startPool _ := return .ok ()

end ApiBindings

/-- Runs the program and prints what it leaves behind. -/
def main (words : List String) : IO UInt32 := do
  let outcome ← ApiBindings.CommandLine.program words
  (← IO.getStdout).putStr outcome.output
  (← IO.getStderr).putStr outcome.messages
  return outcome.exitCode.toUInt32
