import ApiBindings.Proofs.FileViews
import ApiBindings.Proofs.Words
import ApiBindings.Store.FileTree

/-!
# What becomes of a file tree

Creating a file, writing to it and making a directory add to a tree and take nothing from it but what a created
file held before.  `FileTree.Extends` says so of two trees: what is there stays, and directories stay directories.
A path that led to a place still does in a tree that extends the first one (`Extends.locate`).

A created file is found where its path leads (`located_of_createFile`), and all else stands as it stood.  Making a
directory changes no file at all.  So a tree is a store as programs expect it (`FileTree.systemStore`), and one in
which no two files of different names are the same.
-/

namespace ApiBindings

set_option autoImplicit false

/-- A sequence of steps succeeds exactly if the first does and the others do after it. -/
theorem bind_eq_ok_iff {ε α β : Type} {x : Except ε α} {next : α → Except ε β} {value : β} :
    x >>= next = .ok value ↔ ∃ first, x = .ok first ∧ next first = .ok value := by
  cases x with
  | error fault => exact iff_of_false nofun fun ⟨_, failed, _⟩ => nomatch failed
  | ok first =>
      constructor
      · exact fun reached => ⟨first, rfl, reached⟩
      · rintro ⟨_, ⟨⟩, reached⟩
        exact reached

/-! ## Paths of names in a directory -/

namespace Path

/-- A text that can name an entry of a directory. -/
structure SimpleName (name : String) : Prop where
  nonempty : name.toList ≠ []
  noSlash : '/' ∉ name.toList
  noMove : FileTree.isMove name = false

/-- The last step of a name below a directory is the name. -/
theorem getLast?_strictSteps_join {name : String} (simple : SimpleName name) (directory : String) :
    (strictSteps (join directory name)).getLast? = some name := by
  have last : (join directory name).toList.getLast? = name.toList.getLast? := by
    unfold join
    split
    · rfl
    · split <;> simp [List.getLast?_append, List.getLast?_cons, List.getLast?_eq_some_getLast simple.nonempty]
  have noSlash : (join directory name).toList.getLast? ≠ some '/' := by
    rw [last]
    exact fun slash => simple.noSlash (List.mem_of_getLast? slash)
  have steps : ∃ front, Text.pieces (· == '/') (join directory name).toList = front ++ [name.toList] := by
    unfold join
    split
    · exact ⟨[], Text.pieces_of_notMem simple.noSlash⟩
    · next nonempty =>
        split
        · next slash =>
            obtain ⟨front, written⟩ := List.getLast?_eq_some_iff.mp slash
            rw [String.toList_append, written, List.append_assoc, List.singleton_append,
              Text.pieces_append_mark (by simp), Text.pieces_of_notMem simple.noSlash]
            exact ⟨_, rfl⟩
        · simp only [String.toList_append, List.append_assoc]
          show ∃ front, Text.pieces _ (directory.toList ++ '/' :: name.toList) = _
          rw [Text.pieces_append_mark (by simp), Text.pieces_of_notMem simple.noSlash]
          exact ⟨_, rfl⟩
  obtain ⟨front, written⟩ := steps
  have nonempty : name ≠ "" := fun empty => simple.nonempty (by rw [empty]; rfl)
  rw [strictSteps, if_neg noSlash, Path.steps, pieces, written]
  simp [List.filter_append, nonempty]

end Path

namespace FileTree

variable {tree after : FileTree} {path : String} {place : Place}

/-! ## Trees that extend others -/

/-- The place that a path leads to. -/
def locate (tree : FileTree) (path : String) : Except StoreFault Place := do
  tree.follow (← tree.origin path) (Path.strictSteps path)

/-- Where something stood something of its kind stands. -/
structure Extends (before after : FileTree) : Prop where
  start : after.start = before.start
  kinds : ∀ place entry, before.find? place = some entry →
    ∃ later, after.find? place = some later ∧ later.isDirectory = entry.isDirectory

theorem Extends.refl (tree : FileTree) : tree.Extends tree := ⟨rfl, fun _ entry found => ⟨entry, found, rfl⟩⟩

theorem Extends.trans {first second third : FileTree} (early : first.Extends second)
    (late : second.Extends third) : first.Extends third where
  start := late.start.trans early.start
  kinds place entry found := by
    obtain ⟨middle, found, same⟩ := early.kinds place entry found
    obtain ⟨later, found, same'⟩ := late.kinds place middle found
    exact ⟨later, found, same'.trans same⟩

theorem Extends.directory {before : FileTree} (keeps : before.Extends after)
    (found : before.find? place = some .directory) : after.find? place = some .directory := by
  obtain ⟨_ | _, found, same⟩ := keeps.kinds place .directory found
  · exact found
  · cases same

theorem Extends.present {before : FileTree} (keeps : before.Extends after)
    (found : (before.find? place).isSome) : (after.find? place).isSome := by
  obtain ⟨entry, found⟩ := Option.isSome_iff_exists.mp found
  obtain ⟨later, found, -⟩ := keeps.kinds place entry found
  exact Option.isSome_of_eq_some found

/-- An entry in place of one of its kind. -/
theorem extends_put {entry : Entry}
    (stays : ∀ old, tree.find? place = some old → entry.isDirectory = old.isDirectory)
    (free : ¬ place <+: tree.start) : tree.Extends (tree.put place entry) where
  start := rfl
  kinds other old found := by
    by_cases same : other = place
    · subst same
      exact ⟨entry, find?_put_same tree free entry, stays old found⟩
    · exact ⟨old, by rwa [find?_put_ne tree same], rfl⟩

theorem step_eq_ok_iff {origin target : Place} {name : String} :
    tree.step origin name = .ok target ↔ tree.find? origin = some .directory ∧
      (name = "." ∧ origin = target ∨ name = ".." ∧ origin.dropLast = target ∨
        isMove name = false ∧ Path.isLongStep name = false ∧
          (tree.find? (origin ++ [name])).isSome ∧ origin ++ [name] = target) := by
  rw [step]
  rcases tree.find? origin with _ | (_ | _)
  case none => simp
  case some.file => simp
  case some.directory =>
    rw [isMove]
    by_cases still : name = "."
    · simp [still]
    by_cases up : name = ".."
    · simp [up]
    cases Path.isLongStep name <;> cases (tree.find? (origin ++ [name])).isSome <;> simp [still, up]

theorem Extends.step {before : FileTree} (keeps : before.Extends after) {name : String}
    {origin target : Place} (stepped : before.step origin name = .ok target) :
    after.step origin name = .ok target := by
  obtain ⟨directory, moves⟩ := step_eq_ok_iff.mp stepped
  refine step_eq_ok_iff.mpr ⟨keeps.directory directory, ?_⟩
  exact moves.imp_right <| Or.imp_right fun ⟨noMove, short, found, same⟩ =>
    ⟨noMove, short, keeps.present found, same⟩

theorem Extends.follow {before : FileTree} (keeps : before.Extends after) {names : List String}
    {origin target : Place} (leads : before.follow origin names = .ok target) :
    after.follow origin names = .ok target := by
  induction names generalizing origin with
  | nil => exact leads
  | cons name names ih =>
      rw [FileTree.follow, List.foldlM_cons, bind_eq_ok_iff] at leads ⊢
      obtain ⟨met, stepped, leads⟩ := leads
      exact ⟨met, keeps.step stepped, ih leads⟩

theorem Extends.origin {before : FileTree} (keeps : before.Extends after) :
    after.origin path = before.origin path := by
  rw [FileTree.origin, FileTree.origin, keeps.start]

theorem locate_eq_ok_iff : tree.locate path = .ok place ↔
    ∃ origin, tree.origin path = .ok origin ∧
      tree.follow origin (Path.strictSteps path) = .ok place :=
  bind_eq_ok_iff

theorem follow_concat_eq_ok_iff {origin : Place} {names : List String} {name : String} :
    tree.follow origin (names ++ [name]) = .ok place ↔
      ∃ met, tree.follow origin names = .ok met ∧ tree.step met name = .ok place := by
  rw [follow, List.foldlM_append, bind_eq_ok_iff]
  simp only [List.foldlM_cons, List.foldlM_nil, bind_pure]
  rfl

/-- A path leads where it led. -/
theorem Extends.locate {before : FileTree} (keeps : before.Extends after)
    (leads : before.locate path = .ok place) : after.locate path = .ok place := by
  obtain ⟨origin, starts, leads⟩ := locate_eq_ok_iff.mp leads
  exact locate_eq_ok_iff.mpr ⟨origin, keeps.origin.trans starts, keeps.follow leads⟩

/-- A path whose last step is a name leads to a place of this name. -/
theorem getLast?_of_locate {name : String} (leads : tree.locate path = .ok place)
    (last : (Path.strictSteps path).getLast? = some name) (noMove : isMove name = false) :
    place.getLast? = some name := by
  obtain ⟨origin, -, leads⟩ := locate_eq_ok_iff.mp leads
  obtain ⟨front, steps⟩ := List.getLast?_eq_some_iff.mp last
  rw [steps, follow_concat_eq_ok_iff] at leads
  obtain ⟨met, -, stepped⟩ := leads
  obtain ⟨-, ⟨rfl, -⟩ | ⟨rfl, -⟩ | ⟨-, -, -, rfl⟩⟩ := step_eq_ok_iff.mp stepped
  · cases noMove
  · cases noMove
  · exact List.getLast?_concat

/-! ## Writing files -/

theorem placeIn_eq_ok_iff {origin : Place} {names : List String} {name : String} :
    tree.placeIn origin names name = .ok place ↔ ∃ parent, tree.follow origin names = .ok parent ∧
      tree.find? parent = some .directory ∧ Path.isLongStep name = false ∧ parent ++ [name] = place := by
  rw [placeIn]
  cases tree.follow origin names with
  | error fault => simp
  | ok parent =>
      rcases found : tree.find? parent with _ | (_ | _) <;> cases Path.isLongStep name <;>
        simp [found, Entry.isDirectory]

theorem not_prefix_start (other : tree.find? place ≠ some .directory) : ¬ place <+: tree.start := by
  intro above
  exact other (by rw [find?, if_pos (List.isPrefixOf_iff_prefix.mpr above)])

/-- A file put where no directory stands takes nothing from a tree. -/
theorem extends_put_file (bytes : ByteArray) (other : tree.find? place ≠ some .directory) :
    tree.Extends (tree.put place (.file bytes)) := by
  refine extends_put (fun old found => ?_) (not_prefix_start other)
  cases old with
  | directory => exact absurd found other
  | file _ => rfl

/-- **A created file is where its path leads, and no directory stood there.** -/
theorem located_of_createFile (created : tree.createFile path = .ok (place, after)) :
    after.locate path = .ok place ∧ tree.find? place ≠ some .directory ∧
      after = tree.put place (.file .empty) := by
  obtain ⟨origin, starts, created⟩ := bind_eq_ok_iff.mp created
  cases last : (Path.strictSteps path).getLast? with
  | none =>
      rw [last] at created
      cases created
  | some name =>
      rw [last] at created
      obtain ⟨place, placed, created⟩ := bind_eq_ok_iff.mp created
      obtain ⟨parent, leads, directory, short, rfl⟩ := placeIn_eq_ok_iff.mp placed
      obtain ⟨names, steps⟩ := List.getLast?_eq_some_iff.mp last
      rw [steps, List.dropLast_concat] at leads
      split at created
      · cases created
      · next free =>
          rw [Bool.or_eq_true, not_or, Bool.not_eq_true] at free
          obtain ⟨noMove, free⟩ := free
          have other : tree.find? (parent ++ [name]) ≠ some .directory := by
            intro found
            rw [found] at free
            exact free rfl
          cases created
          have keeps := extends_put_file .empty other
          refine ⟨locate_eq_ok_iff.mpr ⟨origin, starts, ?_⟩, other, rfl⟩
          rw [steps, follow_concat_eq_ok_iff]
          refine ⟨parent, keeps.follow leads, step_eq_ok_iff.mpr ⟨keeps.directory directory, ?_⟩⟩
          exact .inr (.inr ⟨noMove, short, by rw [find?_put_same tree (not_prefix_start other)]; rfl, rfl⟩)

/-! ## What files hold -/

/-- What the file at a place holds. -/
def content (tree : FileTree) (place : Place) : Option ByteArray :=
  match tree.find? place with
  | some (.file bytes) => some bytes
  | _ => none

theorem content_eq_some_iff {bytes : ByteArray} :
    tree.content place = some bytes ↔ tree.find? place = some (.file bytes) := by
  rw [content]
  rcases tree.find? place with _ | (_ | _) <;> simp

theorem content_put_same {bytes : ByteArray} (other : tree.find? place ≠ some .directory) :
    (tree.put place (.file bytes)).content place = some bytes :=
  content_eq_some_iff.mpr (find?_put_same tree (not_prefix_start other) _)

theorem content_put_ne {other : Place} (differ : other ≠ place) (entry : Entry) :
    (tree.put place entry).content other = tree.content other := by
  rw [content, content, find?_put_ne tree differ]

theorem content_append {bytes : ByteArray} (held : tree.content place = some bytes) (more : ByteArray) :
    (tree.append place more).content place = some (bytes ++ more) := by
  have found := content_eq_some_iff.mp held
  rw [append, found]
  exact content_put_same (by rw [found]; nofun)

theorem readBytes_eq_ok_iff {bytes : ByteArray} : tree.readBytes path = .ok bytes ↔
    ∃ place, tree.locate path = .ok place ∧ tree.content place = some bytes := by
  rw [readBytes, bind_eq_ok_iff]
  simp only [bind_eq_ok_iff, locate_eq_ok_iff, content_eq_some_iff]
  constructor
  · rintro ⟨origin, starts, place, leads, found⟩
    refine ⟨place, ⟨origin, starts, leads⟩, ?_⟩
    rcases there : tree.find? place with _ | (_ | _) <;> rw [there] at found <;> cases found
    rfl
  · rintro ⟨place, ⟨origin, starts, leads⟩, found⟩
    exact ⟨origin, starts, place, leads, by rw [found]; rfl⟩

/-! ## Making directories -/

/-- Nothing stands at the place of a name that cannot be followed. -/
theorem find?_eq_none_of_follow {origin parent : Place} {names : List String} {name : String}
    {fault : StoreFault} (stopped : tree.follow origin (names ++ [name]) = .error fault)
    (leads : tree.follow origin names = .ok parent) (directory : tree.find? parent = some .directory)
    (short : Path.isLongStep name = false) (noMove : isMove name = false) :
    tree.find? (parent ++ [name]) = none := by
  by_contra present
  have stepped : tree.step parent name = .ok (parent ++ [name]) :=
    step_eq_ok_iff.mpr ⟨directory,
      .inr (.inr ⟨noMove, short, Option.isSome_iff_ne_none.mpr present, rfl⟩)⟩
  rw [follow_concat_eq_ok_iff.mpr ⟨parent, leads, stepped⟩] at stopped
  cases stopped

/-- **Making a directory puts it where nothing stood.** -/
theorem vacant_of_makeDirectory (made : tree.makeDirectory path = .ok after) :
    ∃ place, tree.find? place = none ∧ after = tree.put place .directory := by
  obtain ⟨origin, starts, made⟩ := bind_eq_ok_iff.mp made
  dsimp only at made
  cases led : tree.follow origin (Path.steps path) with
  | ok place =>
      rw [led] at made
      cases made
  | error fault =>
      cases last : (Path.steps path).getLast? with
      | none =>
          rw [led, last] at made
          cases made
      | some name =>
          rw [led, last] at made
          dsimp only at made
          split at made
          · cases made
          · next noMove =>
              obtain ⟨place, placed, made⟩ := bind_eq_ok_iff.mp made
              obtain ⟨parent, leads, directory, short, rfl⟩ := placeIn_eq_ok_iff.mp placed
              obtain ⟨names, steps⟩ := List.getLast?_eq_some_iff.mp last
              rw [steps] at led
              rw [steps, List.dropLast_concat] at leads
              cases made
              exact ⟨_, find?_eq_none_of_follow led leads directory short (Bool.eq_false_iff.mpr noMove), rfl⟩

/-! ## The store of a tree -/

/-- The files of a tree, each of them known by its place. -/
def fileView : FileView FileTree Place where
  locate tree path := (tree.locate path).toOption.filter fun place => (tree.content place).isSome
  content := content

theorem fileView_locate_eq_some_iff : fileView.locate tree path = some place ↔
    tree.locate path = .ok place ∧ (tree.content place).isSome := by
  simp only [fileView, Option.filter_eq_some_iff]
  cases tree.locate path <;> simp [Except.toOption]

/-- In a tree that extends another one only those files have changed that hold something else. -/
theorem Extends.changesOnly {before : FileTree} {touched : Set Place} (keeps : before.Extends after)
    (same : ∀ place ∉ touched, after.content place = before.content place) :
    fileView.ChangesOnly touched before after where
  keeps := same
  leads path place leads := by
    obtain ⟨leads, there⟩ := fileView_locate_eq_some_iff.mp leads
    obtain ⟨bytes, there⟩ := Option.isSome_iff_exists.mp there
    refine fileView_locate_eq_some_iff.mpr ⟨keeps.locate leads, ?_⟩
    obtain ⟨_ | _, found, kind⟩ := keeps.kinds place _ (content_eq_some_iff.mp there)
    · cases kind
    · exact Option.isSome_of_eq_some (content_eq_some_iff.mpr found)

theorem changesOnly_put_file (bytes : ByteArray) (other : tree.find? place ≠ some .directory) :
    fileView.ChangesOnly {place} tree (tree.put place (.file bytes)) :=
  (extends_put_file bytes other).changesOnly fun _ differ => content_put_ne differ _

theorem changesOnly_append (place : Place) (bytes : ByteArray) :
    fileView.ChangesOnly {place} tree (tree.append place bytes) := by
  rw [append]
  split
  · next content found => exact changesOnly_put_file _ (by rw [found]; nofun)
  · exact .refl tree

/-- **Making a directory changes no file.** -/
theorem changesOnly_of_makeDirectory (made : tree.makeDirectory path = .ok after) :
    fileView.ChangesOnly ∅ tree after := by
  obtain ⟨place, vacant, rfl⟩ := vacant_of_makeDirectory made
  have free : ¬ place <+: tree.start := not_prefix_start (by rw [vacant]; nofun)
  have keeps : tree.Extends (tree.put place .directory) :=
    extends_put (fun old found => by rw [vacant] at found; cases found) free
  refine keeps.changesOnly fun other _ => ?_
  by_cases same : other = place
  · subst same
    rw [content, content, find?_put_same tree free, vacant]
  · exact content_put_ne same _

/-- Bytes that are read as a text are those of the text. -/
theorem toUTF8_of_fromUTF8? {bytes : ByteArray} {text : String} (read : String.fromUTF8? bytes = some text) :
    text.toUTF8 = bytes := by
  unfold String.fromUTF8? at read
  split at read
  · cases read
    rfl
  · cases read

theorem read_of_readText {text : String} (read : tree.readText path = .ok text) :
    fileView.read tree path = some text.toUTF8 := by
  obtain ⟨bytes, bytesRead, decoded⟩ := bind_eq_ok_iff.mp read
  obtain ⟨place, leads, there⟩ := readBytes_eq_ok_iff.mp bytesRead
  have located : fileView.locate tree path = some place :=
    fileView_locate_eq_some_iff.mpr ⟨leads, Option.isSome_of_eq_some there⟩
  have same : text.toUTF8 = bytes := by
    split at decoded
    · next decodes =>
        cases decoded
        exact toUTF8_of_fromUTF8? decodes
    · cases decoded
  rw [FileView.read, located, same]
  exact there

/-- A tree is a store as programs expect it. -/
theorem systemStore : SystemStore (σ := FileTree) fileView id id where
  readText path tree := ⟨rfl, fun _ => read_of_readText⟩
  isDirectory _ _ := rfl
  startPool _ _ := rfl
  makeDirectory path tree := by
    simp only [FileStore.makeDirectory, update]
    cases made : tree.makeDirectory path with
    | error fault => exact .refl tree
    | ok after => exact changesOnly_of_makeDirectory made
  createFile path tree := by
    simp only [FileStore.createFile, update]
    cases created : tree.createFile path with
    | error fault => rfl
    | ok result =>
        obtain ⟨place, after⟩ := result
        obtain ⟨leads, other, rfl⟩ := located_of_createFile created
        refine ⟨fileView_locate_eq_some_iff.mpr ⟨leads, ?_⟩, changesOnly_put_file .empty other⟩
        exact Option.isSome_of_eq_some (content_put_same other)
  writeAll place text tree := changesOnly_append place text.toUTF8
  flush _ tree := .refl tree
  replaces := by
    intro path text place before created written after opened wrote flushed
    simp only [FileStore.createFile, update] at opened
    cases made : before.createFile path with
    | error fault =>
        rw [made] at opened
        cases opened
    | ok result =>
        obtain ⟨_, _⟩ := result
        rw [made] at opened
        cases opened
        obtain ⟨-, other, rfl⟩ := located_of_createFile made
        cases wrote
        cases flushed
        have empty : (before.put place (.file .empty)).content place = some .empty := content_put_same other
        have held := content_append empty text.toUTF8
        rwa [ByteArray.empty_append] at held

end FileTree

end ApiBindings
