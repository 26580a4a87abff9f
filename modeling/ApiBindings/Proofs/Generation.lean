import ApiBindings.Proofs.Emission
import ApiBindings.Proofs.FileTrees
import ApiBindings.Proofs.Volumes

/-!
# What generating does to the files

The bindings of a registry are written one file after another, and any operation on the way may be refused.  What
generating leaves behind is nevertheless known from its outcome (`generate_writes_prefix`).  A registry that is not
loaded leaves the system as it was.  Otherwise the first files of the selection are complete, all of them if nothing
was refused, and no other file has changed, with one exception.  A file that was created and whose content was
refused then is neither complete nor what it was (`Torn`).

All this is said of any store whose system is as `SystemStore` says.  Its files may have links among them.  Two
files of the selection that are one file by a link cannot both hold their code; the later one does (`Written`).
-/

namespace ApiBindings

set_option autoImplicit false

/-! ## Written files -/

theorem Artifact.fileName_injective : Function.Injective Artifact.fileName := by
  intro artifact other same
  have names : artifact.name = other.name := (String.append_left_inj ".rs").mp same
  have found := artifact.ofName?_name
  rw [names, other.ofName?_name] at found
  exact (Option.some.inj found).symm

theorem Artifact.simpleName_fileName (artifact : Artifact) : Path.SimpleName artifact.fileName := by
  constructor <;> cases artifact <;> decide

/-- The path of a file in the directory that it is written to. -/
def Binding.GeneratedFile.path (directory : String) (file : Binding.GeneratedFile) : String :=
  Path.join directory file.artifact.fileName

/-- Files have been written one after another, and no other file has changed. -/
structure Written {φ ι : Type} (view : FileView φ ι) (directory : String) (files : List Binding.GeneratedFile)
    (before after : φ) : Prop where
  /-- Each file is there with its code, unless a link makes it one with a later file of another artifact. -/
  complete : ∀ front file back, files = front ++ file :: back →
    ∃ place, view.locate after (file.path directory) = some place ∧
      ((∀ other ∈ back, other.artifact ≠ file.artifact →
          view.locate after (other.path directory) ≠ some place) →
        view.content after place = some file.code.toUTF8)
  changes : view.ChangesOnly {place | ∃ file ∈ files, view.locate after (file.path directory) = some place}
    before after

namespace Written

variable {φ ι : Type} {view : FileView φ ι} {directory : String} {files : List Binding.GeneratedFile}
variable {before middle after : φ}

theorem none (changes : view.ChangesOnly ∅ before after) : Written view directory [] before after where
  complete front file back split := absurd split (by simp)
  changes := changes.of_empty

theorem of_changesOnly_empty (early : view.ChangesOnly ∅ before middle)
    (late : Written view directory files middle after) : Written view directory files before after where
  complete := late.complete
  changes := early.of_empty.trans late.changes

/-- **One more file in front of others leaves all of them complete,** if files of one artifact have one code. -/
theorem cons {file : Binding.GeneratedFile}
    (agree : ∀ other ∈ files, other.artifact = file.artifact → other.code = file.code) {place : ι}
    (leads : view.locate middle (file.path directory) = some place)
    (early : view.ChangesOnly {place} before middle)
    (held : view.content middle place = some file.code.toUTF8)
    (late : Written view directory files middle after) : Written view directory (file :: files) before after := by
  have located := late.changes.leads _ _ leads
  constructor
  case complete =>
    intro front written back split
    cases front with
    | cons first front =>
        obtain ⟨rfl, rfl⟩ := List.cons.inj split
        exact late.complete front written back rfl
    | nil =>
        obtain ⟨rfl, rfl⟩ := List.cons.inj split
        refine ⟨place, located, fun alone => ?_⟩
        by_cases again : ∃ other ∈ files, view.locate after (other.path directory) = some place
        · -- The file was written once more, and this is the file that is there.
          obtain ⟨other, mem, there⟩ := again
          have same : other.artifact = file.artifact := by
            by_contra differs
            exact alone other mem differs there
          obtain ⟨front, back, rfl⟩ := List.append_of_mem mem
          obtain ⟨place', there', complete⟩ := late.complete front other back rfl
          obtain rfl : place' = place := Option.some.inj (there'.symm.trans there)
          rw [← agree other mem same]
          refine complete fun later later_mem differs => alone later ?_ (same ▸ differs)
          exact List.mem_append_right _ (List.mem_cons_of_mem _ later_mem)
        · rw [late.changes.keeps place fun ⟨other, mem, there⟩ => again ⟨other, mem, there⟩]
          exact held
  case changes =>
    refine .trans (early.mono ?_) (late.changes.mono ?_)
    · rintro _ rfl
      exact ⟨file, List.mem_cons_self, located⟩
    · rintro _ ⟨other, mem, there⟩
      exact ⟨other, List.mem_cons_of_mem _ mem, there⟩

end Written

/-! ## One file -/

section Store

variable {σ φ ι : Type} [FileStore (StateM σ)] {view : FileView φ ι} {systemOf : σ → φ}

/-- A file was created, and then a part of its content was refused. -/
inductive RefusedContent (path text : String) (fault : StoreFault) (before after : σ) : Prop where
  | write {file : FileStore.Handle (StateM σ)} {created : σ}
      (opened : FileStore.createFile (m := StateM σ) path before = (.ok file, created))
      (refused : FileStore.writeAll (m := StateM σ) file text created = (.error fault, after))
  | flush {file : FileStore.Handle (StateM σ)} {created written : σ}
      (opened : FileStore.createFile (m := StateM σ) path before = (.ok file, created))
      (wrote : FileStore.writeAll (m := StateM σ) file text created = (.ok (), written))
      (refused : FileStore.flush (m := StateM σ) file written = (.error fault, after))

/-- A file whose content was refused after it had been created is the only one that has changed. -/
structure Torn (view : FileView φ ι) (systemOf : σ → φ) (path text : String) (fault : StoreFault)
    (before after : σ) : Prop where
  refused : RefusedContent path text fault before after
  alone : ∃ place, view.locate (systemOf after) path = some place ∧
    view.ChangesOnly {place} (systemOf before) (systemOf after)

theorem writeFile_apply (path text : String) (state : σ) :
    FileStore.writeFile (m := StateM σ) path text state =
      match FileStore.createFile (m := StateM σ) path state with
      | (.error fault, after) => (.error fault, after)
      | (.ok file, created) =>
        match FileStore.writeAll (m := StateM σ) file text created with
        | (.error fault, after) => (.error fault, after)
        | (.ok (), written) => FileStore.flush (m := StateM σ) file written := by
  rw [FileStore.writeFile, bind_apply]
  rcases FileStore.createFile (m := StateM σ) path state with ⟨fault | file, created⟩
  · rfl
  · dsimp only
    rw [bind_apply]
    rcases FileStore.writeAll (m := StateM σ) file text created with ⟨fault | _, written⟩ <;> rfl

theorem writeFiles_cons (directory : String) (file : Binding.GeneratedFile)
    (files : List Binding.GeneratedFile) (state : σ) :
    writeFiles (m := StateM σ) directory (file :: files) state =
      match FileStore.writeFile (m := StateM σ) (file.path directory) file.code state with
      | (.error fault, after) => (.error (.unwritable (file.path directory) fault), after)
      | (.ok (), after) =>
        match writeFiles (m := StateM σ) directory files after with
        | (result, last) => (result.map (file.path directory :: ·), last) := by
  rw [writeFiles, bind_apply, Binding.GeneratedFile.path]
  rcases FileStore.writeFile (m := StateM σ) (Path.join directory file.artifact.fileName) file.code
    state with ⟨_ | _, after⟩ <;> rfl

variable [ThreadPools (StateM σ)] {fileOf : FileStore.Handle (StateM σ) → ι}

namespace SystemStore

variable (store : SystemStore view systemOf fileOf)
include store

/-- **A file that is written holds the text, and one that is refused is as it was or torn.**  No other file has
changed. -/
theorem writeFile_spec (path text : String) (before : σ) :
    match FileStore.writeFile (m := StateM σ) path text before with
    | (.ok (), after) => ∃ place, view.locate (systemOf after) path = some place ∧
        view.ChangesOnly {place} (systemOf before) (systemOf after) ∧
        view.content (systemOf after) place = some text.toUTF8
    | (.error fault, after) =>
        systemOf after = systemOf before ∨ Torn view systemOf path text fault before after := by
  rw [writeFile_apply]
  have create := store.createFile path before
  rcases opened : FileStore.createFile (m := StateM σ) path before with ⟨fault | file, created⟩
  · rw [opened] at create
    exact .inl create
  rw [opened] at create
  obtain ⟨leads, emptied⟩ := create
  have write := store.writeAll file text created
  dsimp only
  rcases wrote : FileStore.writeAll (m := StateM σ) file text created with ⟨fault | _, written⟩
  · rw [wrote] at write
    exact .inr ⟨.write opened wrote, _, write.leads _ _ leads, emptied.trans write⟩
  rw [wrote] at write
  have flush := store.flush file written
  dsimp only
  rcases flushed : FileStore.flush (m := StateM σ) file written with ⟨fault | _, after⟩ <;>
    rw [flushed] at flush
  · exact .inr ⟨.flush opened wrote flushed, _, flush.leads _ _ (write.leads _ _ leads),
      (emptied.trans write).trans flush⟩
  · exact ⟨_, flush.leads _ _ (write.leads _ _ leads), (emptied.trans write).trans flush,
      store.replaces opened wrote flushed⟩

end SystemStore

/-! ## Generating -/

theorem generate_apply (options : GenerateOptions) (state : σ) :
    generate (m := StateM σ) options state =
      match FileStore.readText (m := StateM σ) options.registry state with
      | (.error fault, after) => (.error (.unloadable (.unreadable options.registry fault)), after)
      | (.ok source, after) =>
        match Registry.ofText source with
        | .error error => (.error (.unloadable (.refused error)), after)
        | .ok registry =>
          match options.startPool (m := StateM σ) after with
          | (.error message, after) => (.error (.poolless message), after)
          | (.ok (), after) =>
            match FileStore.makeDirectories (m := StateM σ) options.directory after with
            | (.error fault, after) => (.error (.unwritable options.directory fault), after)
            | (.ok (), after) =>
              writeFiles (m := StateM σ) options.directory (Binding.emit registry options.artifacts) after := by
  rw [generate, bind_apply, loadRegistry, bind_apply]
  rcases FileStore.readText (m := StateM σ) options.registry state with ⟨fault | source, opened⟩
  · rfl
  cases loaded : Registry.ofText source with
  | error error => simp only [loaded]; rfl
  | ok registry =>
      simp only [loaded]
      show ((options.startPool (m := StateM σ) >>= _) opened) = _
      rw [bind_apply]
      rcases options.startPool (m := StateM σ) opened with ⟨_ | _, started⟩
      · rfl
      dsimp only
      rw [bind_apply]
      rcases FileStore.makeDirectories (m := StateM σ) options.directory started with ⟨_ | _, after⟩ <;> rfl

theorem code_of_mem_emit {registry : Registry} {artifacts : List Artifact} {file : Binding.GeneratedFile}
    (mem : file ∈ Binding.emit registry artifacts) :
    file.code = (Binding.emitAlone registry file.artifact).code := by
  rw [Binding.emit_eq_map_emitAlone] at mem
  obtain ⟨artifact, -, rfl⟩ := List.mem_map.mp mem
  rfl

theorem map_artifact_emit (registry : Registry) (artifacts : List Artifact) :
    (Binding.emit registry artifacts).map (·.artifact) = artifacts := by
  rw [Binding.emit_eq_map_emitAlone, List.map_map]
  exact List.map_id artifacts

/-- **Files are written one after another up to the first one that is refused.** -/
theorem SystemStore.writeFiles_prefix (store : SystemStore view systemOf fileOf) (code : Artifact → String)
    (directory : String) (files : List Binding.GeneratedFile)
    (codes : ∀ file ∈ files, file.code = code file.artifact) (before : σ) :
    match writeFiles (m := StateM σ) directory files before with
    | (.ok paths, after) => paths = files.map (·.path directory) ∧
        Written view directory files (systemOf before) (systemOf after)
    | (.error error, after) => ∃ k file fault reached, files[k]? = some file ∧
        error = .unwritable (file.path directory) fault ∧
        Written view directory (files.take k) (systemOf before) (systemOf reached) ∧
        (systemOf after = systemOf reached ∨
          Torn view systemOf (file.path directory) file.code fault reached after) := by
  induction files generalizing before with
  | nil => exact ⟨rfl, .none (.refl _)⟩
  | cons file files ih =>
      obtain ⟨here, codes⟩ := List.forall_mem_cons.mp codes
      have agree : ∀ other ∈ files, other.artifact = file.artifact → other.code = file.code :=
        fun other mem same => by rw [codes other mem, here, same]
      have wrote := store.writeFile_spec (file.path directory) file.code before
      rw [writeFiles_cons]
      split at wrote
      · next middle written =>
          obtain ⟨place, leads, changes, held⟩ := wrote
          have rest := ih codes middle
          rw [written]
          dsimp only
          rcases outcome : writeFiles (m := StateM σ) directory files middle with ⟨error | paths, after⟩
          · rw [outcome] at rest
            obtain ⟨k, failed, fault, reached, found, same, later, left⟩ := rest
            refine ⟨k + 1, failed, fault, reached, found, same, .cons ?_ leads changes held later, left⟩
            exact fun other mem => agree other (List.mem_of_mem_take mem)
          · rw [outcome] at rest
            obtain ⟨rfl, later⟩ := rest
            exact ⟨rfl, .cons agree leads changes held later⟩
      · next fault after refused =>
          rw [refused]
          exact ⟨0, file, fault, before, rfl, rfl, .none (.refl _), wrote⟩

/-- What becomes of a system to which the bindings of a registry are written, by the outcome.  All files of the
selection are complete, or those in front of the directory or the file that was refused are; what was refused left
the system as it was, or left a file torn. -/
def WritesPrefix (view : FileView φ ι) (systemOf : σ → φ) (options : GenerateOptions) (registry : Registry)
    (before after : σ) : Except GenerateError (List String) → Prop
  | .ok paths =>
      paths = options.artifacts.map (fun artifact => Path.join options.directory artifact.fileName) ∧
        Written view options.directory (Binding.emit registry options.artifacts) (systemOf before) (systemOf after)
  | .error (.unwritable path fault) => ∃ k reached,
      Written view options.directory ((Binding.emit registry options.artifacts).take k)
        (systemOf before) (systemOf reached) ∧
      (k = 0 ∧ path = options.directory ∧ systemOf after = systemOf reached ∨
        ∃ artifact, options.artifacts[k]? = some artifact ∧
          path = Path.join options.directory artifact.fileName ∧
          (systemOf after = systemOf reached ∨
            Torn view systemOf path (Binding.emitAlone registry artifact).code fault reached after))
  | .error (.poolless _) => systemOf after = systemOf before
  | .error (.unloadable _) => False

theorem SystemStore.writesPrefix_writeFiles (store : SystemStore view systemOf fileOf) (options : GenerateOptions)
    (registry : Registry) {start before : σ}
    (early : view.ChangesOnly ∅ (systemOf start) (systemOf before)) :
    match writeFiles (m := StateM σ) options.directory (Binding.emit registry options.artifacts) before with
    | (outcome, after) => WritesPrefix view systemOf options registry start after outcome := by
  have selected := map_artifact_emit registry options.artifacts
  have wrote := store.writeFiles_prefix (fun artifact => (Binding.emitAlone registry artifact).code)
    options.directory (Binding.emit registry options.artifacts) (fun _ => code_of_mem_emit) before
  split at wrote
  · next paths after written =>
      obtain ⟨rfl, complete⟩ := wrote
      rw [written]
      refine ⟨?_, .of_changesOnly_empty early complete⟩
      calc (Binding.emit registry options.artifacts).map (·.path options.directory)
          = ((Binding.emit registry options.artifacts).map (·.artifact)).map
              (fun artifact => Path.join options.directory artifact.fileName) := by
            rw [List.map_map]
            rfl
        _ = options.artifacts.map (fun artifact => Path.join options.directory artifact.fileName) := by
            rw [selected]
  · next error after written =>
      obtain ⟨k, file, fault, reached, found, rfl, complete, left⟩ := wrote
      rw [written]
      refine ⟨k, reached, .of_changesOnly_empty early complete, .inr ⟨file.artifact, ?_, rfl, ?_⟩⟩
      · rw [← selected, List.getElem?_map, found]
        rfl
      · rw [← code_of_mem_emit (List.mem_of_getElem? found)]
        exact left

end Store

/-- If a path is in the selection once, the files in front of it are those that are complete. -/
theorem WritesPrefix.of_unwritable {φ ι σ : Type} [FileStore (StateM σ)] {view : FileView φ ι}
    {systemOf : σ → φ} {options : GenerateOptions} {registry : Registry} {before after : σ} {path : String}
    {fault : StoreFault}
    (writes : WritesPrefix view systemOf options registry before after (.error (.unwritable path fault)))
    (k : Nat) (artifact : Artifact) (apart : path ≠ options.directory)
    (only : ∀ entry ∈ options.artifacts.zipIdx,
      path = Path.join options.directory entry.1.fileName → entry = (artifact, k)) :
    ∃ reached, Written view options.directory (Binding.emit registry (options.artifacts.take k))
        (systemOf before) (systemOf reached) ∧
      (systemOf after = systemOf reached ∨
        Torn view systemOf path (Binding.emitAlone registry artifact).code fault reached after) := by
  obtain ⟨place, reached, written, ⟨-, same, -⟩ | ⟨other, found, same, left⟩⟩ := writes
  · exact absurd same apart
  · obtain ⟨rfl, rfl⟩ := Prod.mk.inj (only (other, place) (List.mem_zipIdx_iff_getElem?.mpr found) same)
    rw [Binding.emit_eq_map_emitAlone, ← List.map_take, ← Binding.emit_eq_map_emitAlone] at written
    exact ⟨reached, written, left⟩

/-! ## Trees -/

/-- A tree refuses no content. -/
theorem FileTree.not_torn {φ ι : Type} {view : FileView φ ι} {systemOf : FileTree → φ} {path text : String}
    {fault : StoreFault} {before after : FileTree} : ¬ Torn view systemOf path text fault before after := by
  rintro ⟨⟨_, refused⟩ | ⟨_, _, refused⟩, -⟩ <;> cases refused

/-- Files with one place in a tree are of one artifact. -/
theorem artifact_eq_of_locate {directory : String} {file other : Binding.GeneratedFile} {place : Place}
    {tree : FileTree} (here : FileTree.fileView.locate tree (file.path directory) = some place)
    (there : FileTree.fileView.locate tree (other.path directory) = some place) :
    file.artifact = other.artifact := by
  have name : ∀ {file : Binding.GeneratedFile},
      FileTree.fileView.locate tree (file.path directory) = some place →
        place.getLast? = some file.artifact.fileName := by
    intro file located
    have simple := file.artifact.simpleName_fileName
    obtain ⟨leads, -⟩ := FileTree.fileView_locate_eq_some_iff.mp located
    exact FileTree.getLast?_of_locate leads (Path.getLast?_strictSteps_join simple directory) simple.noMove
  exact Artifact.fileName_injective (Option.some.inj ((name here).symm.trans (name there)))

/-- **Without links all files that were written are complete.** -/
theorem Written.readBytes {directory : String} {files : List Binding.GeneratedFile} {before after : FileTree}
    (written : Written FileTree.fileView directory files before after) {file : Binding.GeneratedFile}
    (mem : file ∈ files) : after.readBytes (file.path directory) = .ok file.code.toUTF8 := by
  obtain ⟨front, back, split⟩ := List.append_of_mem mem
  obtain ⟨place, located, complete⟩ := written.complete front file back split
  obtain ⟨leads, -⟩ := FileTree.fileView_locate_eq_some_iff.mp located
  refine FileTree.readBytes_eq_ok_iff.mpr ⟨place, leads, complete fun other _ differs there => ?_⟩
  exact differs (artifact_eq_of_locate there located)

/-- A document with one handle. -/
def handleText : String := "\x7b\"handles\":[[\"Device\",true]]\x7d"

/-- The registry of the document. -/
def handleRegistry : Registry := Document.registry { Document.empty with handles := [⟨"Device", true⟩] }

/-- A tree in which a directory stands in the way of a file. -/
def blockedTree : FileTree :=
  ⟨[(["w", "api.json"], .file handleText.toUTF8), (["w", "out"], .directory),
    (["w", "out", "enums.rs"], .directory), (["w", "out", "structs.rs"], .file "old".toUTF8)], ["w"]⟩

/-- A selection with an artifact that occurs twice, before the one that is in the way. -/
def blockedOptions : GenerateOptions where
  registry := "api.json"
  directory := "out"
  artifacts := [.structs, .handles, .structs, .enums, .unions]
  jobs := some 4

/-- The tree on a volume where the path of one file is a link to another one, with room for these two and no more. -/
def linkedVolume : Volume FileTree where
  inner := blockedTree
  target path := if path = "out/unions.rs" then "out/structs.rs" else path
  room := 200

/-- A selection with the two files that are one, and a third one. -/
def linkedOptions : GenerateOptions where
  registry := "api.json"
  directory := "out"
  artifacts := [.structs, .unions, .handles]

end ApiBindings
