import ApiBindings.Store.Path

/-!
# File stores

Registries are read from files and bindings are written to files.  A file store is a monad with the
operations that this takes; each of them may fail with one of the faults of the system below.  A file is
written in three steps: it is created, which empties one that is there already, then it gets its content,
and then what the store still holds back is written out.  So a file whose content is refused is there
nevertheless, without some of it or all of it.

`ApiBindings.Store.FileTree` is a store of its own in memory; the program runs on the one of the
operating system, which also has the threads that it asks for.
-/

namespace ApiBindings

set_option autoImplicit false

/-- Why an operation on files failed. -/
inductive StoreFault where
  | noSuchFile
  | alreadyExists
  | notADirectory
  | isADirectory
  | nameTooLong
  /-- The path holds a character that no path can hold. -/
  | nulInPath
  | notUtf8
  /-- Any other fault, in the words of the system. -/
  | other (message : String)
  deriving DecidableEq, Repr, Inhabited

/-- The wording of a fault. -/
def StoreFault.message : StoreFault → String
  | noSuchFile => "No such file or directory (os error 2)"
  | alreadyExists => "File exists (os error 17)"
  | notADirectory => "Not a directory (os error 20)"
  | isADirectory => "Is a directory (os error 21)"
  | nameTooLong => "File name too long (os error 36)"
  | nulInPath => "file name contained an unexpected NUL byte"
  | notUtf8 => "stream did not contain valid UTF-8"
  | other message => message

/-- A monad with files. -/
class FileStore (m : Type → Type) where
  /-- A file that is open for writing. -/
  Handle : Type
  /-- The text of a file. -/
  readText : (path : String) → m (Except StoreFault String)
  /-- Opens a file for writing; it is made if it does not exist, and loses its content if it does. -/
  createFile : (path : String) → m (Except StoreFault Handle)
  /-- Adds a text at the end of an open file. -/
  writeAll : (file : Handle) → (text : String) → m (Except StoreFault Unit)
  /-- Writes out what the store holds back of an open file. -/
  flush : (file : Handle) → m (Except StoreFault Unit)
  /-- Makes a directory in one that exists. -/
  makeDirectory : (path : String) → m (Except StoreFault Unit)
  /-- Whether a path leads to a directory. -/
  isDirectory : (path : String) → m Bool

/-- A monad in which pools of threads can be started. -/
class ThreadPools (m : Type → Type) where
  /-- Starts a pool of some threads, or says in words why there is none. -/
  startPool : (threads : Nat) → m (Except String Unit)

namespace FileStore

variable {m : Type → Type} [Monad m] [FileStore m]

/-- Makes a text the whole content of a file, which need not exist.  Once the file is created, it stays even
if its content is refused. -/
def writeFile (path text : String) : m (Except StoreFault Unit) := do
  match ← createFile path with
  | .error fault => return .error fault
  | .ok file =>
    match ← writeAll file text with
    | .error fault => return .error fault
    | .ok () => flush file

/-- Makes a directory, where one that is there already is as good as a new one. -/
def ensureDirectory (path : String) : m (Except StoreFault Unit) := do
  match ← makeDirectory path with
  | .error .alreadyExists =>
    return if ← isDirectory path then .ok () else .error .alreadyExists
  | result => return result

/-- Makes the directory that the pieces of a path lead to, and those above it if one of them is
missing. -/
def makePieces (pieces : List String) : m (Except StoreFault Unit) :=
  if _ : Path.isTop pieces then return .ok ()
  else do
    match ← ensureDirectory (Path.ofPieces pieces) with
    | .error .noSuchFile =>
      match ← makePieces (Path.parent pieces) with
      | .error fault => return .error fault
      | .ok () => ensureDirectory (Path.ofPieces pieces)
    | result => return result
  termination_by pieces.length
  decreasing_by exact Path.length_parent_lt (Path.ne_nil_of_not_isTop ‹_›)

/-- Makes the directory of a path and those above it, as far as they do not exist. -/
def makeDirectories (path : String) : m (Except StoreFault Unit) := makePieces (Path.pieces path)

end FileStore

end ApiBindings
