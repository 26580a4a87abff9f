import ApiBindings.Store.Basic

/-!
# Files in memory

A file tree holds files and directories below the root of a file system, one of which is the directory
that relative paths start from.  An entry is known by its place, the names from the root down to it; a
path is followed to a place, through `.` and `..`, and every step needs a directory to start from.  A tree
has no links, so each file has one place, and it never runs out of room.

The operations of a file store are defined on trees as they behave on a file system: reading a directory
or creating a file in its place is a fault, and so is a path that leads through a file or has a name
that is too long.
-/

namespace ApiBindings

set_option autoImplicit false

/-- The names from the root of a tree to one of its entries. -/
abbrev Place := List String

/-- What stands at a place. -/
inductive Entry where
  | directory
  | file (bytes : ByteArray)
  deriving Inhabited

/-- Whether an entry is a directory. -/
def Entry.isDirectory : Entry → Bool
  | .directory => true
  | .file _ => false

/-- The entries below the root of a file system. -/
structure FileTree where
  entries : List (Place × Entry)
  /-- The directory that relative paths start from. -/
  start : Place

namespace FileTree

/-- A tree without entries, whose root relative paths start from. -/
def empty : FileTree := ⟨[], []⟩

variable (tree : FileTree)

/-- What stands at a place; the start and all places above it are directories. -/
def find? (place : Place) : Option Entry :=
  if place.isPrefixOf tree.start then some .directory else tree.entries.lookup place

/-- Puts an entry at a place, instead of what stands there. -/
def put (place : Place) (entry : Entry) : FileTree :=
  { tree with entries := (place, entry) :: tree.entries.filter (·.1 != place) }

theorem find?_put_same {place : Place} (h : ¬ place <+: tree.start) (entry : Entry) :
    (tree.put place entry).find? place = some entry := by
  simp [find?, put, h]

theorem find?_put_ne {place other : Place} (h : other ≠ place) (entry : Entry) :
    (tree.put place entry).find? other = tree.find? other := by
  have differs : (other == place) = false := by simpa using h
  have filtered : ∀ entries : List (Place × Entry),
      (entries.filter (·.1 != place)).lookup other = entries.lookup other := by
    intro entries
    induction entries with
    | nil => rfl
    | cons first rest ih =>
      obtain ⟨name, value⟩ := first
      by_cases hp : name = place
      · subst hp
        simp [List.lookup_cons, ih, differs]
      · rw [List.filter_cons_of_pos (by simpa using hp)]
        simp only [List.lookup_cons, ih]
  simp [find?, put, List.lookup_cons, filtered, differs]

/-! ## Paths -/

/-- A step that is not a name: it stays in place or goes up. -/
def isMove (step : String) : Bool := step = "." || step = ".."

/-- Takes one step from a place. -/
def step (place : Place) (name : String) : Except StoreFault Place :=
  match tree.find? place with
  | some .directory =>
    if name = "." then .ok place
    else if name = ".." then .ok place.dropLast
    else if Path.isLongStep name then .error .nameTooLong
    else if (tree.find? (place ++ [name])).isSome then .ok (place ++ [name])
    else .error .noSuchFile
  | some (.file _) => .error .notADirectory
  | none => .error .noSuchFile

/-- The place that steps lead to. -/
def follow (origin : Place) (names : List String) : Except StoreFault Place :=
  names.foldlM tree.step origin

/-- The place of a name in the directory that steps lead to, whether or not anything stands there. -/
def placeIn (origin : Place) (names : List String) (name : String) : Except StoreFault Place :=
  match tree.follow origin names with
  | .ok place =>
    if !(tree.find? place).any Entry.isDirectory then .error .notADirectory
    else if Path.isLongStep name then .error .nameTooLong
    else .ok (place ++ [name])
  | .error fault => .error fault

/-- Where a path starts, unless it is no path at all. -/
def origin (path : String) : Except StoreFault Place :=
  if Path.hasNul path then .error .nulInPath
  else if Path.isLong path then .error .nameTooLong
  else if path.toList.isEmpty then .error .noSuchFile
  else if Path.isAbsolute path then .ok []
  else .ok tree.start

/-! ## Files -/

/-- The bytes of the file that a path leads to. -/
def readBytes (path : String) : Except StoreFault ByteArray := do
  let place ← tree.follow (← tree.origin path) (Path.strictSteps path)
  match tree.find? place with
  | some (.file bytes) => return bytes
  | some .directory => throw .isADirectory
  | none => throw .noSuchFile

/-- The text of the file that a path leads to. -/
def readText (path : String) : Except StoreFault String := do
  match String.fromUTF8? (← tree.readBytes path) with
  | some text => return text
  | none => throw .notUtf8

/-- The place of a file that is created, and the tree with the file, which is empty there. -/
def createFile (path : String) : Except StoreFault (Place × FileTree) := do
  let origin ← tree.origin path
  match (Path.strictSteps path).getLast? with
  | none => throw .isADirectory
  | some name =>
    let place ← tree.placeIn origin (Path.strictSteps path).dropLast name
    if isMove name || (tree.find? place).any Entry.isDirectory then throw .isADirectory
    return (place, tree.put place (.file .empty))

/-- The tree with bytes at the end of the file at a place. -/
def append (place : Place) (bytes : ByteArray) : FileTree :=
  match tree.find? place with
  | some (.file content) => tree.put place (.file (content ++ bytes))
  | _ => tree

/-! ## Directories -/

/-- Whether a path leads to a directory. -/
def isDirectory (path : String) : Bool :=
  match tree.origin path >>= fun origin => tree.follow origin (Path.steps path) with
  | .ok place => (tree.find? place).any Entry.isDirectory
  | .error _ => false

/-- The tree with one more directory, in a directory that exists. -/
def makeDirectory (path : String) : Except StoreFault FileTree := do
  let origin ← tree.origin path
  let names := Path.steps path
  match tree.follow origin names, names.getLast? with
  | .ok _, _ => throw .alreadyExists
  | .error fault, none => throw fault
  | .error fault, some name =>
    if isMove name then throw fault
    let place ← tree.placeIn origin names.dropLast name
    return tree.put place .directory

/-! ## Listing -/

/-- The paths of all files below the start, in the order of their bytes. -/
def files : List String :=
  let paths := tree.entries.filterMap fun (place, entry) =>
    match entry with
    | .file _ =>
      if tree.start.isPrefixOf place then some (Path.ofPieces (place.drop tree.start.length)) else none
    | .directory => none
  paths.mergeSort (fun a b => !(b < a))

end FileTree

/-- An operation that gives a value and a new tree unless it fails, as a change of state. -/
def FileTree.update {α : Type} (change : FileTree → Except StoreFault (α × FileTree)) :
    StateM FileTree (Except StoreFault α) := fun tree =>
  match change tree with
  | .ok (value, changed) => (.ok value, changed)
  | .error fault => (.error fault, tree)

/-- A tree as the state of a program.  An open file is known by its place, and nothing is held back. -/
instance : FileStore (StateM FileTree) where
  Handle := Place
  readText path := fun tree => (tree.readText path, tree)
  createFile path := FileTree.update (·.createFile path)
  writeAll place text := fun tree => (.ok (), tree.append place text.toUTF8)
  flush _ := return .ok ()
  makeDirectory path := FileTree.update fun tree => (tree.makeDirectory path).map ((), ·)
  isDirectory path := fun tree => (tree.isDirectory path, tree)

/-- Programs on a tree run on one thread, and any pool that they ask for is as good as started. -/
instance : ThreadPools (StateM FileTree) where
  startPool _ := return .ok ()

end ApiBindings
