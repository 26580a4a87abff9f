import ApiBindings.Proofs.CTypes

/-!
# Constness of the emitted pointers

In C a type name stands for the type of its row.  Substituting the rows one by one turns a type into one whose
named type has no row (`Substitutes`), and where a row's type is `const`, so is whatever the name stood for.

Reading keeps one flag for each star, and so says of each pointer whether its pointee is `const`; whether the type
as a whole is `const` it does not keep.  The emitted levels are those of the readings one behind the other.  They
agree with the substituted type exactly if no pointer points, without a `const` of its own, to a name that stands
for a `const` type (`emittedType_eq_emitted_iff`).  There is such a pointer in a registry that is built
(`const_lost_in_constTypedef`).
-/

namespace ApiBindings.Registry

set_option autoImplicit false

open ApiBindings.Types

/-! ## Substitution -/

/-- A spelling with what it means. -/
structure Reading where
  spelling : String
  type : CType
  spells : Spells spelling type

/-- Reading gives the named type. -/
def Reading.Legible (reading : Reading) : Prop :=
  (Spelling.parse reading.spelling).base = reading.type.name.text

/-- The rows of a type are substituted one after another, until a named type has no row. -/
inductive Substitutes (registry : Registry) : List Reading → CType → CType → Prop where
  | done {type : CType} : registry.rowOf? type.name.text = none → Substitutes registry [] type type
  | row {type full : CType} {reading : Reading} {readings : List Reading} :
      registry.rowOf? type.name.text = some reading.spelling →
      Substitutes registry readings reading.type full →
      Substitutes registry (reading :: readings) type (type.substitute full)

/-- A name stands for a type that is `const`. -/
def StandsForConst (registry : Registry) (name : TypeName) : Prop :=
  ∃ readings full, registry.Substitutes readings (.named name false) full ∧ full.isConst = true

/-- A pointer of a type points, without a `const` of its own, to a name that stands for a `const` type. -/
def HidesConst (registry : Registry) (type : CType) : Prop :=
  ∃ name, type.unqualifiedPointee? = some name ∧ registry.StandsForConst name

variable {registry : Registry} {readings others : List Reading} {type full other : CType}

theorem Substitutes.unique (substitutes : registry.Substitutes readings type full)
    (again : registry.Substitutes others type other) : full = other := by
  induction substitutes generalizing others other with
  | done bottom =>
      cases again with
      | done _ => rfl
      | row row _ => cases bottom.symm.trans row
  | @row type full reading readings row _ ih =>
      cases again with
      | done bottom => cases bottom.symm.trans row
      | @row _ _ another _ found rest =>
          have same : reading.spelling = another.spelling := Option.some.inj (row.symm.trans found)
          rw [another.spells.unique (same ▸ reading.spells)] at rest
          rw [ih rest]

theorem standsForConst_iff {name : TypeName}
    (substitutes : registry.Substitutes readings (.named name false) full) :
    registry.StandsForConst name ↔ full.isConst = true := by
  constructor
  · rintro ⟨others, other, again, isConst⟩
    rwa [substitutes.unique again]
  · exact fun isConst => ⟨readings, full, substitutes, isConst⟩

theorem hidesConst_iff (substitutes : registry.Substitutes readings (.named type.name false) full) :
    registry.HidesConst type ↔ type.unqualifiedPointee?.isSome ∧ full.isConst = true := by
  constructor
  · rintro ⟨name, plain, stands⟩
    rw [CType.eq_name_of_unqualifiedPointee? plain] at stands
    exact ⟨Option.isSome_of_eq_some plain, (standsForConst_iff substitutes).mp stands⟩
  · rintro ⟨plain, isConst⟩
    obtain ⟨name, plain⟩ := Option.isSome_iff_exists.mp plain
    refine ⟨name, plain, ?_⟩
    rw [CType.eq_name_of_unqualifiedPointee? plain]
    exact (standsForConst_iff substitutes).mpr isConst

/-! ## Levels that are written -/

/-- The pointer levels of the readings, the last reading innermost. -/
def writtenLevels (readings : List Reading) : List Bool :=
  readings.reverse.flatMap fun reading => reading.type.pointees

theorem writtenLevels_cons (reading : Reading) (readings : List Reading) :
    writtenLevels (reading :: readings) = writtenLevels readings ++ reading.type.pointees := by
  rw [writtenLevels, List.reverse_cons, List.flatMap_append, List.flatMap_singleton]
  rfl

/-- Where the rows are read rightly and a row's spelling is a name if it has a row itself, substitution unfolds the
rows. -/
theorem Substitutes.exists_unfolds (substitutes : registry.Substitutes readings type full)
    (legible : ∀ reading ∈ readings, reading.Legible)
    (names : ∀ reading ∈ readings, (registry.rowOf? reading.spelling).isSome → BareWord reading.spelling)
    (levels : List Bool) :
    ∃ names, registry.Direct names ∧
      registry.Unfolds names ⟨type.name.text, levels⟩ ⟨full.name.text, writtenLevels readings ++ levels⟩ := by
  induction substitutes generalizing levels with
  | done bottom => exact ⟨[], fun _ mem => absurd mem List.not_mem_nil, .done bottom⟩
  | @row type full reading readings row _ ih =>
      obtain ⟨legible, legibles⟩ := List.forall_mem_cons.mp legible
      obtain ⟨name, names⟩ := List.forall_mem_cons.mp names
      obtain ⟨met, direct, unfolds⟩ := ih legibles names (reading.type.pointees ++ levels)
      refine ⟨type.name.text :: met, ?_, .row row ?_⟩
      · refine List.forall_mem_cons.mpr ⟨fun target link onward => ?_, direct⟩
        obtain rfl : target = reading.spelling := Option.some.inj ((rowOf?_of_walkStep? link).symm.trans row)
        exact (name onward).parse
      · rw [legible, reading.spells.levels_parse, CType.name_substitute, writtenLevels_cons, List.append_assoc]
        exact unfolds

theorem Substitutes.length_writtenLevels (substitutes : registry.Substitutes readings type full) :
    (writtenLevels readings ++ type.pointees).length = full.pointees.length := by
  induction substitutes with
  | done _ => rfl
  | @row type full reading readings _ _ ih =>
      obtain ⟨outer, inside, length⟩ := type.exists_pointees_substitute full
      rw [inside, writtenLevels_cons, List.length_append, ih, List.length_append, length]

/-- **The levels that are written are those of the substituted type, unless a pointer hides a `const`.** -/
theorem Substitutes.writtenLevels_eq_iff (substitutes : registry.Substitutes readings type full) :
    writtenLevels readings ++ type.pointees = full.pointees ↔
      ∀ met ∈ type :: readings.map (·.type), ¬registry.HidesConst met := by
  induction substitutes with
  | @done type bottom =>
      have named : registry.Substitutes [] (.named type.name false) (.named type.name false) := .done bottom
      refine ⟨fun _ => List.forall_mem_singleton.mpr fun hides => ?_, fun _ => rfl⟩
      exact Bool.false_ne_true ((hidesConst_iff named).mp hides).2
  | @row type full reading readings row rest ih =>
      have named : registry.Substitutes (reading :: readings) (.named type.name false) full := by
        have kept : (CType.named type.name false).substitute full = full := full.qualified_false
        rw [← kept]
        exact .row row rest
      obtain ⟨outer, inside, length⟩ := type.exists_pointees_substitute full
      -- There is a level for every pointer, so the levels agree reading by reading.
      have split : writtenLevels (reading :: readings) ++ type.pointees = (type.substitute full).pointees ↔
          writtenLevels (reading :: readings) = full.pointees ∧
            (type.substitute full).pointees = full.pointees ++ type.pointees := by
        rw [inside, List.append_right_inj]
        constructor
        · intro same
          have parts := List.append_inj same (by rw [writtenLevels_cons]; exact rest.length_writtenLevels)
          exact ⟨parts.1, parts.2.symm⟩
        · rintro ⟨inner, rfl⟩
          rw [inner]
      rw [split, type.pointees_substitute_eq_iff, writtenLevels_cons, ih, List.forall_mem_cons (p := _) (a := type),
        hidesConst_iff named, not_and, Bool.not_eq_true, and_comm]
      rfl

/-! ## Emitted levels -/

theorem pointerTo_inj {first second : Bool} {type other : String} :
    pointerTo first type = pointerTo second other ↔ first = second ∧ type = other := by
  cases first <;> cases second <;> simp [pointerTo, ← String.toList_inj]

theorem foldl_pointerTo_inj {levels others : List Bool} (type : String)
    (length : levels.length = others.length) :
    levels.foldl (fun type pointeeIsConst => pointerTo pointeeIsConst type) type =
      others.foldl (fun type pointeeIsConst => pointerTo pointeeIsConst type) type ↔ levels = others := by
  induction levels using List.reverseRecOn generalizing others with
  | nil => simp [List.length_eq_zero_iff.mp length.symm]
  | append_singleton levels last ih =>
      obtain rfl | ⟨others, final, rfl⟩ := List.eq_nil_or_concat others
      · simp at length
      · rw [List.concat_eq_append] at length ⊢
        have shorter : levels.length = others.length := by simpa using length
        have split : levels ++ [last] = others ++ [final] ↔ levels = others ∧ last = final := by simp
        rw [List.foldl_append, List.foldl_append, List.foldl_cons, List.foldl_nil, List.foldl_cons,
          List.foldl_nil, pointerTo_inj, ih shorter, split, and_comm]

/-- **Where the rows are read rightly, the emitted pointers say which pointees are `const`, unless a pointer hides a
`const`.**  The named type and the number of pointers are right in any case. -/
theorem emittedType_eq_emitted_iff {reading : Reading}
    (substitutes : registry.Substitutes readings reading.type full)
    (legible : ∀ met ∈ reading :: readings, met.Legible)
    (names : ∀ met ∈ readings, (registry.rowOf? met.spelling).isSome → BareWord met.spelling) :
    registry.expanded reading.spelling = ⟨full.name.text, writtenLevels (reading :: readings)⟩ ∧
    (writtenLevels (reading :: readings)).length = full.pointees.length ∧
    ((emittedType registry reading.spelling).eval registry.resolve = full.emitted ↔
      ∀ met ∈ reading :: readings, ¬registry.HidesConst met.type) := by
  obtain ⟨legible, legibles⟩ := List.forall_mem_cons.mp legible
  have parsed : Spelling.parse reading.spelling = ⟨reading.type.name.text, reading.type.pointees⟩ := by
    rw [← reading.spells.levels_parse, ← legible]
  have length : (writtenLevels (reading :: readings)).length = full.pointees.length := by
    rw [writtenLevels_cons]
    exact substitutes.length_writtenLevels
  have expanded : registry.expanded reading.spelling =
      ⟨full.name.text, writtenLevels (reading :: readings)⟩ := by
    obtain ⟨met, direct, unfolds⟩ := substitutes.exists_unfolds legibles names reading.type.pointees
    rw [← parsed, ← writtenLevels_cons] at unfolds
    exact expand_of_unfolds unfolds direct full.name.bare.parse
  refine ⟨expanded, length, ?_⟩
  rw [eval_emittedType, ← Registry.expanded, expanded, Spelling.emitted, CType.emitted_eq_foldl,
    foldl_pointerTo_inj _ length, writtenLevels_cons, substitutes.writtenLevels_eq_iff, ← List.map_cons,
    List.forall_mem_map]

/-- A canonical spelling with what it means. -/
def Reading.canonical (name : TypeName) (tagged behind : Bool) (flags : List Bool) (last : Bool) : Reading :=
  ⟨canonicalSpelling name tagged behind flags last,
    (CType.named name (flags.headD last)).pointers (flags ++ [last]).tail,
    spells_canonicalSpelling name tagged behind flags last⟩

theorem Reading.legible_canonical (name : TypeName) (tagged behind : Bool) (flags : List Bool) (last : Bool) :
    (Reading.canonical name tagged behind flags last).Legible := by
  rw [Legible, canonical, parse_canonicalSpelling, CType.name_pointers]
  rfl

/-- A typedef of pointers to `const` flags. -/
def flagRows : Document :=
  { Document.empty with
    typedefs := [⟨"Row", "const Flags*"⟩]
    baseTypes := [⟨"Flags", "uint32_t"⟩] }

/-- The spelling `Row*`. -/
def rows : Reading := .canonical ⟨"Row", by decide +kernel, by decide⟩ false false [false] false

/-- The spelling `const Flags*`. -/
def constFlags : Reading := .canonical ⟨"Flags", by decide +kernel, by decide⟩ false false [true] false

/-- The spelling `uint32_t`. -/
def plainWord : Reading := .canonical ⟨"uint32_t", by decide +kernel, by decide⟩ false false [] false

theorem emittedType_rows : flagRows.build = .ok flagRows.registry ∧ rows.spelling = "Row*" ∧
    (emittedType flagRows.registry "Row*").eval flagRows.registry.resolve = "*mut *const u32" ∧
    ¬flagRows.registry.HidesConst rows.type := by
  have row : flagRows.registry.rowOf? rows.type.name.text = some constFlags.spelling := by decide +kernel
  have base : flagRows.registry.rowOf? constFlags.type.name.text = some plainWord.spelling := by decide +kernel
  have bottom : flagRows.registry.rowOf? plainWord.type.name.text = none := by decide +kernel
  have legible : ∀ met ∈ [rows, constFlags, plainWord], met.Legible := by
    intro met mem
    simp only [List.mem_cons, List.not_mem_nil, or_false] at mem
    rcases mem with rfl | rfl | rfl <;> exact Reading.legible_canonical ..
  have names : ∀ met ∈ [constFlags, plainWord],
      (flagRows.registry.rowOf? met.spelling).isSome → BareWord met.spelling := by decide +kernel
  obtain ⟨-, -, same⟩ := emittedType_eq_emitted_iff (.row row (.row base (.done bottom))) legible names
  have spelled : rows.spelling = "Row*" := by decide +kernel
  have emitted : (emittedType flagRows.registry "Row*").eval flagRows.registry.resolve =
      "*mut *const u32" := by decide +kernel
  rw [spelled] at same
  refine ⟨Document.build_of_problems_eq_nil (by decide +kernel), spelled, emitted, ?_⟩
  exact same.mp (emitted.trans (by decide +kernel)) rows List.mem_cons_self

/-- A typedef of a `const` type. -/
def constTypedef : Document := { Document.empty with typedefs := [⟨"CInt", "const int"⟩] }

/-- The spelling `CInt*`. -/
def namedConst : Reading := .canonical ⟨"CInt", by decide +kernel, by decide⟩ false false [false] false

/-- The spelling `const int`. -/
def constInt : Reading := .canonical ⟨"int", by decide +kernel, by decide⟩ false false [] true

/-- A registry that is built, with a pointer to a `const` type that is emitted without it. -/
theorem const_lost_in_constTypedef : constTypedef.build = .ok constTypedef.registry ∧
    namedConst.spelling = "CInt*" ∧ constInt.spelling = "const int" ∧
    constTypedef.registry.Substitutes [constInt] namedConst.type (namedConst.type.substitute constInt.type) ∧
    (namedConst.type.substitute constInt.type).emitted = "*const ::core::ffi::c_int" ∧
    (emittedType constTypedef.registry "CInt*").eval constTypedef.registry.resolve =
      "*mut ::core::ffi::c_int" := by
  refine ⟨Document.build_of_problems_eq_nil (by decide +kernel), by decide +kernel, by decide +kernel, ?_,
    by decide +kernel, by decide +kernel⟩
  exact .row (by decide +kernel) (.done (by decide +kernel))

end ApiBindings.Registry
