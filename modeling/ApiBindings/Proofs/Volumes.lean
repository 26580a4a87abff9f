import ApiBindings.Proofs.FileViews

/-!
# Volumes

A volume is a store over another one that has links and little room.  A path that is a link leads where another
path leads, and a text that there is no room for is refused after its file has been created, which is then empty.
What is assumed of a store holds of a volume if it holds of the store below (`Volume.systemStore`); so the
assumptions allow for both.
-/

namespace ApiBindings

set_option autoImplicit false

/-- A store with links to some of its paths, and with room for some bytes more. -/
structure Volume (σ : Type) where
  inner : σ
  /-- The path that a link stands for; any other path stands for itself. -/
  target : String → String
  room : Nat

namespace Volume

variable {σ φ ι α : Type}

/-- The fault of a write that there is no room for. -/
def noRoom : StoreFault := .other "No space left on device (os error 28)"

/-- An action of the store below. -/
def lift (action : StateM σ α) : StateM (Volume σ) α := fun volume =>
  ((action volume.inner).1, { volume with inner := (action volume.inner).2 })

/-- An action of the store below on the path that a path stands for. -/
def liftOn (action : String → StateM σ α) (path : String) : StateM (Volume σ) α := fun volume =>
  lift (action (volume.target path)) volume

theorem inner_eq {action : StateM σ α} {volume after : Volume σ} {value : α}
    (ran : lift action volume = (value, after)) : action volume.inner = (value, after.inner) := by
  obtain ⟨rfl, rfl⟩ := Prod.mk.inj ran
  rfl

/-- A text goes into a file as a whole or not at all, and room once taken is not given back. -/
instance [FileStore (StateM σ)] : FileStore (StateM (Volume σ)) where
  Handle := FileStore.Handle (StateM σ)
  readText := liftOn FileStore.readText
  createFile := liftOn FileStore.createFile
  writeAll file text := fun volume =>
    if text.utf8ByteSize ≤ volume.room then
      lift (FileStore.writeAll file text) { volume with room := volume.room - text.utf8ByteSize }
    else (.error noRoom, volume)
  flush file := lift (FileStore.flush file)
  makeDirectory := liftOn FileStore.makeDirectory
  isDirectory := liftOn FileStore.isDirectory

instance [ThreadPools (StateM σ)] : ThreadPools (StateM (Volume σ)) where
  startPool threads := lift (ThreadPools.startPool threads)

/-! ## Its files -/

/-- The system of a volume: the one below and the links. -/
def system (systemOf : σ → φ) (volume : Volume σ) : φ × (String → String) :=
  (systemOf volume.inner, volume.target)

/-- The files of a volume are those below, and a link leads to the file of the path that it stands for. -/
def fileView (view : FileView φ ι) : FileView (φ × (String → String)) ι where
  locate system path := view.locate system.1 (system.2 path)
  content system := view.content system.1

theorem changesOnly {view : FileView φ ι} {touched : Set ι} {before after : φ}
    (changes : view.ChangesOnly touched before after) (target : String → String) :
    (fileView view).ChangesOnly touched (before, target) (after, target) where
  leads path := changes.leads (target path)
  keeps := changes.keeps

variable [FileStore (StateM σ)] [ThreadPools (StateM σ)]
variable {view : FileView φ ι} {systemOf : σ → φ} {fileOf : FileStore.Handle (StateM σ) → ι}

/-- What is assumed of a store holds of a volume over it. -/
theorem systemStore (store : SystemStore view systemOf fileOf) :
    SystemStore (σ := Volume σ) (fileView view) (system systemOf) fileOf where
  readText path volume := by
    obtain ⟨same, read⟩ := store.readText (volume.target path) volume.inner
    exact ⟨Prod.ext same rfl, read⟩
  isDirectory path volume := Prod.ext (store.isDirectory (volume.target path) volume.inner) rfl
  startPool threads volume := Prod.ext (store.startPool threads volume.inner) rfl
  makeDirectory path volume := changesOnly (store.makeDirectory (volume.target path) volume.inner) volume.target
  createFile path volume := by
    have created := store.createFile (volume.target path) volume.inner
    simp only [FileStore.createFile, liftOn, lift]
    rcases outcome : FileStore.createFile (m := StateM σ) (volume.target path) volume.inner with
      ⟨fault | file, after⟩ <;> rw [outcome] at created
    · exact Prod.ext created rfl
    · exact ⟨created.1, changesOnly created.2 volume.target⟩
  writeAll file text volume := by
    simp only [FileStore.writeAll]
    split
    · exact changesOnly (store.writeAll file text volume.inner) volume.target
    · exact .refl _
  flush file volume := changesOnly (store.flush file volume.inner) volume.target
  replaces := by
    intro path text file before created written after opened wrote flushed
    have fits : text.utf8ByteSize ≤ created.room := by
      by_contra tooLong
      simp only [FileStore.writeAll, if_neg tooLong] at wrote
      cases wrote
    simp only [FileStore.writeAll, if_pos fits] at wrote
    have written := inner_eq wrote
    exact store.replaces (inner_eq opened) written (inner_eq flushed)

end Volume

end ApiBindings
