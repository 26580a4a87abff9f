import ApiBindings.Store.Generate
import Mathlib.Data.Set.Basic

/-!
# Files of a system

What a program does to the files of a system is said here without a model of the system.  A `FileView` shows its
regular files in any state: which file a path leads to, and what a file holds.  Files are known apart from their
paths, so several paths may lead to one file, as hard and symbolic links do.  What has become of the files between
two states is then which of them have changed (`FileView.ChangesOnly`).

A store is a way to the files of a system that programs can take, and it may refuse any operation at any time, for
want of room or of a permission.  `SystemStore` says what is assumed of it.  A file that is not created leaves the
system as it was, an open file is the only one that changes, and a file holds a text if all three steps of writing
it succeeded.  Nothing is said of what a file holds whose content was refused; a store with little room leaves it
empty (`Limited`).
-/

namespace ApiBindings

set_option autoImplicit false

/-! ## Views -/

/-- How regular files are seen in the states of a system. -/
structure FileView (φ ι : Type) where
  /-- The file that a path leads to. -/
  locate : φ → String → Option ι
  /-- What a file holds, if it exists. -/
  content : φ → ι → Option ByteArray

namespace FileView

variable {φ ι : Type} {view : FileView φ ι} {touched : Set ι}

/-- What the file holds that a path leads to. -/
def read (view : FileView φ ι) (system : φ) (path : String) : Option ByteArray :=
  (view.locate system path).bind (view.content system)

/-- Only the given files have changed, and a path that led to a file leads to it still. -/
structure ChangesOnly (view : FileView φ ι) (touched : Set ι) (before after : φ) : Prop where
  leads : ∀ path file, view.locate before path = some file → view.locate after path = some file
  keeps : ∀ file ∉ touched, view.content after file = view.content before file

theorem ChangesOnly.refl (system : φ) : view.ChangesOnly touched system system := ⟨fun _ _ => id, fun _ _ => rfl⟩

theorem ChangesOnly.of_eq {before after : φ} (same : after = before) : view.ChangesOnly touched before after :=
  same ▸ .refl _

theorem ChangesOnly.trans {first second third : φ} (early : view.ChangesOnly touched first second)
    (late : view.ChangesOnly touched second third) : view.ChangesOnly touched first third where
  leads path file leads := late.leads path file (early.leads path file leads)
  keeps file untouched := (late.keeps file untouched).trans (early.keeps file untouched)

theorem ChangesOnly.mono {more : Set ι} (subset : touched ⊆ more) {before after : φ}
    (changes : view.ChangesOnly touched before after) : view.ChangesOnly more before after where
  leads := changes.leads
  keeps file untouched := changes.keeps file fun mem => untouched (subset mem)

theorem ChangesOnly.of_empty {before after : φ} (changes : view.ChangesOnly ∅ before after) :
    view.ChangesOnly touched before after :=
  changes.mono (Set.empty_subset touched)

end FileView

/-! ## Actions that change no file -/

section Still

variable {σ φ ι α β : Type} {view : FileView φ ι} {systemOf : σ → φ}

/-- Actions one after another: the second one starts where the first one ended. -/
theorem bind_apply (first : StateM σ α) (next : α → StateM σ β) (state : σ) :
    (first >>= next) state = next (first state).1 (first state).2 :=
  rfl

/-- An action that changes no file, whatever it answers. -/
def Still (view : FileView φ ι) (systemOf : σ → φ) (action : StateM σ α) : Prop :=
  ∀ state, view.ChangesOnly ∅ (systemOf state) (systemOf (action state).2)

theorem still_pure (value : α) : Still view systemOf (pure value) := fun state => .refl (systemOf state)

theorem Still.bind {first : StateM σ α} {next : α → StateM σ β} (early : Still view systemOf first)
    (late : ∀ value, Still view systemOf (next value)) : Still view systemOf (first >>= next) :=
  fun state => (early state).trans (late _ _)

end Still

/-! ## Stores -/

section SystemStore

variable {σ φ ι : Type} [FileStore (StateM σ)] [ThreadPools (StateM σ)]

/-- What is assumed of a store that writes the files of a system. -/
structure SystemStore (view : FileView φ ι) (systemOf : σ → φ)
    (fileOf : FileStore.Handle (StateM σ) → ι) : Prop where
  /-- Reading changes nothing, and a text that is read is what the file holds. -/
  readText (path : String) (state : σ) :
    systemOf (FileStore.readText (m := StateM σ) path state).2 = systemOf state ∧
      ∀ text, (FileStore.readText (m := StateM σ) path state).1 = .ok text →
        view.read (systemOf state) path = some text.toUTF8
  isDirectory (path : String) (state : σ) :
    systemOf (FileStore.isDirectory (m := StateM σ) path state).2 = systemOf state
  startPool (threads : Nat) (state : σ) :
    systemOf (ThreadPools.startPool (m := StateM σ) threads state).2 = systemOf state
  makeDirectory (path : String) : Still view systemOf (FileStore.makeDirectory (m := StateM σ) path)
  /-- The path of a created file leads to it, and a file that is not created leaves the system as it was. -/
  createFile (path : String) (state : σ) :
    match FileStore.createFile (m := StateM σ) path state with
    | (.ok file, after) => view.locate (systemOf after) path = some (fileOf file) ∧
        view.ChangesOnly {fileOf file} (systemOf state) (systemOf after)
    | (.error _, after) => systemOf after = systemOf state
  /-- Writing to an open file changes this file at most, also when it is refused on the way. -/
  writeAll (file : FileStore.Handle (StateM σ)) (text : String) (state : σ) :
    view.ChangesOnly {fileOf file} (systemOf state)
      (systemOf (FileStore.writeAll (m := StateM σ) file text state).2)
  flush (file : FileStore.Handle (StateM σ)) (state : σ) :
    view.ChangesOnly {fileOf file} (systemOf state) (systemOf (FileStore.flush (m := StateM σ) file state).2)
  /-- A file that was created, written and flushed holds what was written and nothing else. -/
  replaces {path text : String} {file : FileStore.Handle (StateM σ)} {before created written after : σ} :
    FileStore.createFile (m := StateM σ) path before = (.ok file, created) →
    FileStore.writeAll (m := StateM σ) file text created = (.ok (), written) →
    FileStore.flush (m := StateM σ) file written = (.ok (), after) →
    view.content (systemOf after) (fileOf file) = some text.toUTF8

namespace SystemStore

variable {view : FileView φ ι} {systemOf : σ → φ} {fileOf : FileStore.Handle (StateM σ) → ι}
variable (store : SystemStore view systemOf fileOf)
include store

theorem still_ensureDirectory (path : String) :
    Still view systemOf (FileStore.ensureDirectory (m := StateM σ) path) := by
  refine (store.makeDirectory path).bind fun result => ?_
  split
  · have still : Still view systemOf (FileStore.isDirectory (m := StateM σ) path) :=
      fun state => .of_eq (store.isDirectory path state)
    exact still.bind fun _ => still_pure _
  · exact still_pure _

theorem still_makePieces (pieces : List String) :
    Still view systemOf (FileStore.makePieces (m := StateM σ) pieces) := by
  induction pieces using FileStore.makePieces.induct with
  | case1 pieces top =>
      rw [FileStore.makePieces, dif_pos top]
      exact still_pure _
  | case2 pieces lower ih =>
      rw [FileStore.makePieces, dif_neg lower]
      refine (store.still_ensureDirectory _).bind fun result => ?_
      split
      · refine ih.bind fun result => ?_
        split
        · exact still_pure _
        · exact store.still_ensureDirectory _
      · exact still_pure _

/-- Making directories changes no file, however far it gets. -/
theorem still_makeDirectories (path : String) :
    Still view systemOf (FileStore.makeDirectories (m := StateM σ) path) :=
  store.still_makePieces _

/-- A pool that starts, or does not, leaves the system as it was. -/
theorem startPool_eq (options : GenerateOptions) (state : σ) :
    systemOf (options.startPool (m := StateM σ) state).2 = systemOf state := by
  rw [GenerateOptions.startPool]
  cases options.jobs with
  | none => rfl
  | some threads =>
      dsimp only
      split
      · exact store.startPool threads state
      · rfl

end SystemStore

end SystemStore

end ApiBindings
