import ApiBindings.Proofs.CanonicalSpelling

/-!
# C types

What C means by a spelling is a named type under pointers, and each of these may be `const`.  A type has one
flag more than its spelling has pointer levels, since the outermost pointer may be qualified as well.

A spelling has at most one meaning (`Spells.unique`).  Its pointer levels are read rightly from every layout
(`Spells.levels_parse`).

A type stands for another one when its named type is replaced: the type put in keeps its own qualifier and
takes on that of the name (`CType.substitute`).
-/

namespace ApiBindings.Types

set_option autoImplicit false

open ApiBindings.Text

/-! ## Types -/

/-- A type of C: a named type or a pointer, which is `const` or not. -/
inductive CType where
  | named (name : TypeName) (isConst : Bool)
  | pointer (pointee : CType) (isConst : Bool)

namespace CType

/-- Whether the type is `const`. -/
def isConst : CType → Bool
  | named _ isConst => isConst
  | pointer _ isConst => isConst

/-- The named type under all pointers. -/
def name : CType → TypeName
  | named name _ => name
  | pointer pointee _ => pointee.name

/-- For each pointer, innermost first, whether what it points to is `const`. -/
def pointees : CType → List Bool
  | named _ _ => []
  | pointer pointee _ => pointee.pointees ++ [pointee.isConst]

/-- The type in the emitted code: each pointer says whether what it points to is `const`. -/
def emitted : CType → String
  | named name _ => namedType name.text
  | pointer pointee _ => pointerTo pointee.isConst pointee.emitted

/-- The type with one more qualifier. -/
def qualified (also : Bool) : CType → CType
  | named name isConst => named name (isConst || also)
  | pointer pointee isConst => pointer pointee (isConst || also)

/-- The type with another one in place of its named type, whose qualifier goes to the other one. -/
def substitute : CType → (target : CType) → CType
  | named _ isConst, target => target.qualified isConst
  | pointer pointee isConst, target => pointer (pointee.substitute target) isConst

/-- The named type that a pointer points to without a `const`. -/
def unqualifiedPointee? : CType → Option TypeName
  | named _ _ => none
  | pointer (named name isConst) _ => if isConst then none else some name
  | pointer pointee _ => pointee.unqualifiedPointee?

@[simp]
theorem isConst_named (name : TypeName) (isConst : Bool) : (named name isConst).isConst = isConst := rfl

@[simp]
theorem isConst_pointer (pointee : CType) (isConst : Bool) :
    (pointer pointee isConst).isConst = isConst := rfl

theorem emitted_eq_foldl (type : CType) : type.emitted =
    type.pointees.foldl (fun type pointeeIsConst => pointerTo pointeeIsConst type)
      (namedType type.name.text) := by
  induction type with
  | named name isConst => rfl
  | pointer pointee isConst ih =>
      rw [pointees, List.foldl_append, name, ← ih]
      rfl

/-! ### Replaced names -/

@[simp]
theorem isConst_qualified (also : Bool) (type : CType) :
    (type.qualified also).isConst = (type.isConst || also) := by
  cases type <;> rfl

@[simp]
theorem pointees_qualified (also : Bool) (type : CType) :
    (type.qualified also).pointees = type.pointees := by
  cases type <;> rfl

@[simp]
theorem name_qualified (also : Bool) (type : CType) : (type.qualified also).name = type.name := by
  cases type <;> rfl

theorem qualified_false (type : CType) : type.qualified false = type := by
  cases type <;> simp [qualified]

theorem name_substitute (type target : CType) : (type.substitute target).name = target.name := by
  induction type with
  | named name isConst => exact name_qualified isConst target
  | pointer pointee isConst ih => exact ih

/-- The pointees of the other type come first, and there is one for every pointer. -/
theorem exists_pointees_substitute (type target : CType) : ∃ outer,
    (type.substitute target).pointees = target.pointees ++ outer ∧ outer.length = type.pointees.length := by
  induction type with
  | named name isConst => exact ⟨[], by rw [substitute, pointees_qualified, List.append_nil], rfl⟩
  | pointer pointee isConst ih =>
      obtain ⟨outer, inside, length⟩ := ih
      refine ⟨outer ++ [(pointee.substitute target).isConst], ?_, ?_⟩
      · rw [substitute, pointees, inside, List.append_assoc]
      · rw [pointees, List.length_append, List.length_append, length]
        rfl

/-- **The pointees are those of the two types, one behind the other, unless a pointer points without a `const` to
the name that a `const` type replaces.** -/
theorem pointees_substitute_eq_iff (type target : CType) :
    (type.substitute target).pointees = target.pointees ++ type.pointees ↔
      (type.unqualifiedPointee?.isSome → target.isConst = false) := by
  induction type with
  | named name isConst => simp [substitute, pointees, unqualifiedPointee?]
  | pointer pointee isConst ih =>
      rw [substitute, pointees, pointees, ← List.append_assoc]
      cases pointee with
      | named name isConst => cases isConst <;> simp [substitute, pointees, unqualifiedPointee?]
      | pointer inner inside =>
          rw [substitute, isConst_pointer, isConst_pointer, ← substitute, List.append_left_inj, ih]
          rfl

theorem eq_name_of_unqualifiedPointee? {type : CType} {name : TypeName}
    (plain : type.unqualifiedPointee? = some name) : name = type.name := by
  induction type with
  | named _ _ => cases plain
  | pointer pointee _ ih =>
      cases pointee with
      | named inner isConst =>
          cases isConst with
          | true => cases plain
          | false => exact (Option.some.inj plain).symm
      | pointer _ _ => exact ih plain

end CType

/-! ## What a spelling means -/

/-- Pointers around a type, with their qualifiers from the inside out. -/
def CType.pointers (type : CType) (qualifiers : List Bool) : CType := qualifiers.foldl .pointer type

theorem CType.pointees_pointers (type : CType) (qualifiers : List Bool) :
    (type.pointers qualifiers).pointees = type.pointees ++ (type.isConst :: qualifiers).dropLast := by
  induction qualifiers generalizing type with
  | nil => exact (List.append_nil _).symm
  | cons isConst qualifiers ih =>
      rw [pointers, List.foldl_cons, ← pointers, ih, pointees, isConst_pointer, List.append_assoc]
      rfl

theorem CType.name_pointers (type : CType) (qualifiers : List Bool) :
    (type.pointers qualifiers).name = type.name := by
  induction qualifiers generalizing type with
  | nil => rfl
  | cons isConst qualifiers ih =>
      rw [pointers, List.foldl_cons, ← pointers, ih]
      rfl

/-- The type that a layout spells. -/
def Layout.type (layout : Layout) : CType :=
  (CType.named layout.named.name layout.named.isConst).pointers (layout.stars.map StarLayout.isConst)

/-- A spelling means a type if it is laid out for the type in some way. -/
def Spells (spelling : String) (type : CType) : Prop :=
  ∃ layout : Layout, layout.spelling = spelling ∧ layout.type = type

theorem Layout.pointees_type (layout : Layout) : layout.type.pointees = layout.levels :=
  CType.pointees_pointers _ _

variable {spelling : String} {type other : CType}

/-- The pointer levels of a meaningful spelling are read rightly. -/
theorem Spells.levels_parse (spells : Spells spelling type) :
    (Spelling.parse spelling).levels = type.pointees := by
  obtain ⟨layout, rfl, rfl⟩ := spells
  rw [layout.levels_parse, layout.pointees_type]

/-- The words of a named type other than `const` and `struct` are its name. -/
theorem NamedLayout.filter_words_text (layout : NamedLayout) :
    (words layout.text).filter (fun word => word ≠ constWord && word ≠ structWord) =
      [layout.name.text.toList] := by
  rw [words_text, words_core]
  simp [layout.name.ne_const, layout.name.ne_struct]

/-- **A spelling means one type at most.** -/
theorem Spells.unique (spells : Spells spelling type) (again : Spells spelling other) : type = other := by
  obtain ⟨layout, same, rfl⟩ := spells
  obtain ⟨another, rfl, rfl⟩ := again
  have texts : layout.text = another.text := String.ofList_injective same
  have parts := layout.pieces_text.symm.trans ((congrArg _ texts).trans another.pieces_text)
  obtain ⟨named, stars⟩ := List.cons.inj parts
  have name : layout.named.name = another.named.name := by
    have filtered := layout.named.filter_words_text
    rw [named, another.named.filter_words_text] at filtered
    exact TypeName.ext (String.toList_injective (List.cons.inj filtered).1.symm)
  have isConst : layout.named.isConst = another.named.isConst := by
    rw [← layout.named.mentionsConst_text, named, another.named.mentionsConst_text]
  have qualifiers : layout.stars.map StarLayout.isConst = another.stars.map StarLayout.isConst := by
    have read : StarLayout.isConst = mentionsConst ∘ StarLayout.text :=
      funext fun star => star.mentionsConst_text.symm
    rw [read, ← List.map_map, stars, List.map_map]
  rw [Layout.type, Layout.type, name, isConst, qualifiers]

/-- A canonical spelling means the named type under its pointers. -/
theorem spells_canonicalSpelling (name : TypeName) (tagged behind : Bool) (flags : List Bool) (last : Bool) :
    Spells (canonicalSpelling name tagged behind flags last)
      ((CType.named name (flags.headD last)).pointers (flags ++ [last]).tail) := by
  refine ⟨.canonical name tagged behind flags last, Layout.spelling_canonical .., ?_⟩
  rw [Layout.type, Layout.canonical, NamedLayout.isConst_canonical, StarLayout.map_isConst_canonical]
  rfl

end ApiBindings.Types
