import ApiBindings.Registry.Check
import Mathlib.Data.List.Nodup
import Mathlib.Data.List.TakeWhile

/-!
# Names that can be told apart

The names of a collection, and those inside one row, are proper when none of them is blank and none
occurs twice.  The checks of a document's names report nothing exactly for proper names
(`nameProblems_eq_nil_iff`, `memberNameDefects_eq_nil_iff`).

Proper names make look-ups unambiguous: the row of a name is the one that is found (`find?_name_eq_some_iff`).
-/

namespace ApiBindings

set_option autoImplicit false

/-! ## Blank texts -/

/-- Trimming leaves nothing exactly of a text of blanks. -/
theorem Text.trim_eq_nil_iff (text : List Char) :
    Text.trim text = [] ↔ text.all Text.isBlank = true := by
  rw [Text.trim, Text.trimEnd, List.reverse_eq_nil_iff, List.dropWhile_eq_nil_iff]
  simp only [List.mem_reverse, List.all_eq_true]
  constructor
  · intro blank
    rw [← List.dropWhile_eq_nil_iff]
    by_contra rest
    -- The first character that is kept is no blank, yet it is among those that are.
    have kept := List.head_dropWhile_not Text.isBlank rest
    rw [blank _ (List.head_mem rest)] at kept
    cases kept
  · exact fun blank c mem => blank c ((List.dropWhile_sublist _).subset mem)

theorem allBlank_eq_false_iff (name : String) :
    Text.allBlank name = false ↔ Text.trim name.toList ≠ [] := by
  rw [Ne, Text.trim_eq_nil_iff, Text.allBlank, Bool.not_eq_true]

/-! ## Checks of names -/

/-- Names none of which is blank and none of which occurs twice. -/
structure ProperNames (names : List String) : Prop where
  nonblank : ∀ name ∈ names, Text.trim name.toList ≠ []
  distinct : names.Nodup

theorem ProperNames.nil : ProperNames [] := ⟨by simp, List.nodup_nil⟩

theorem properNames_cons_iff {name : String} {names : List String} :
    ProperNames (name :: names) ↔
      Text.trim name.toList ≠ [] ∧ name ∉ names ∧ ProperNames names := by
  constructor
  · rintro ⟨nonblank, distinct⟩
    obtain ⟨fresh, distinct⟩ := List.nodup_cons.mp distinct
    exact ⟨nonblank name List.mem_cons_self, fresh,
      fun other mem => nonblank other (List.mem_cons_of_mem _ mem), distinct⟩
  · rintro ⟨here, fresh, ⟨nonblank, distinct⟩⟩
    exact ⟨List.forall_mem_cons.mpr ⟨here, nonblank⟩, List.nodup_cons.mpr ⟨fresh, distinct⟩⟩

/-- Names are fresh beside one more seen name when they are fresh and it is not among them. -/
theorem lookup_cons_eq_none_iff {name : String} {index : Nat} {seen : List (String × Nat)}
    {names : List String} :
    (∀ other ∈ names, ((name, index) :: seen).lookup other = none) ↔
      name ∉ names ∧ ∀ other ∈ names, seen.lookup other = none := by
  constructor
  · intro unseen
    refine ⟨fun again => ?_, fun other mem => ?_⟩
    · have found := unseen name again
      simp at found
    · have missing := unseen other mem
      rw [List.lookup_cons] at missing
      split at missing
      · cases missing
      · exact missing
  · rintro ⟨fresh, unseen⟩ other mem
    have differ : (other == name) = false := beq_false_of_ne fun same => fresh (same ▸ mem)
    rw [List.lookup_cons, differ]
    exact unseen other mem

/-- No defects: the names are proper, and none of them was seen before. -/
theorem nameDefects_eq_nil_iff (index : Nat) (seen : List (String × Nat)) (names : List String) :
    nameDefects index seen names = [] ↔
      ProperNames names ∧ ∀ name ∈ names, seen.lookup name = none := by
  induction names generalizing index seen with
  | nil => simp [nameDefects, ProperNames.nil]
  | cons name names ih =>
      rw [nameDefects, properNames_cons_iff]
      cases blank : Text.allBlank name with
      | true =>
          have empty : ¬ Text.trim name.toList ≠ [] := by
            rw [← allBlank_eq_false_iff, blank]
            decide
          simp [empty]
      | false =>
          have filled := (allBlank_eq_false_iff name).mp blank
          cases known : seen.lookup name with
          | some first =>
              have repeated : ¬ ∀ other ∈ name :: names, seen.lookup other = none := by
                intro fresh
                rw [fresh name List.mem_cons_self] at known
                cases known
              simp only [Bool.false_eq_true, if_false, reduceCtorEq, repeated, and_false]
          | none =>
              simp only [Bool.false_eq_true, if_false, ih]
              rw [lookup_cons_eq_none_iff, List.forall_mem_cons]
              simp only [known, true_and]
              tauto

/-- **The names of a collection have no problems exactly when they are proper.** -/
theorem nameProblems_eq_nil_iff (collection : Collection) (names : List String) :
    nameProblems collection names = [] ↔ ProperNames names := by
  rw [nameProblems, List.map_eq_nil_iff, nameDefects_eq_nil_iff]
  simp

theorem memberNameDefects_seen_eq_nil_iff (role : NameRole) (seen names : List String) :
    memberNameDefects role seen names = [] ↔
      ProperNames names ∧ ∀ name ∈ names, name ∉ seen := by
  induction names generalizing seen with
  | nil => simp [memberNameDefects, ProperNames.nil]
  | cons name names ih =>
      rw [memberNameDefects, properNames_cons_iff]
      cases blank : Text.allBlank name with
      | true =>
          have empty : ¬ Text.trim name.toList ≠ [] := by
            rw [← allBlank_eq_false_iff, blank]
            decide
          simp [empty]
      | false =>
          have filled := (allBlank_eq_false_iff name).mp blank
          by_cases known : name ∈ seen
          · simp [known]
          · simp only [Bool.false_eq_true, if_false, List.contains_eq_mem, known, decide_false, ih,
              List.forall_mem_cons, not_false_iff, true_and]
            constructor
            · rintro ⟨proper, fresh⟩
              exact ⟨⟨filled, fun mem => fresh name mem List.mem_cons_self, proper⟩,
                fun other mem was => fresh other mem (List.mem_cons_of_mem _ was)⟩
            · rintro ⟨⟨-, here, proper⟩, fresh⟩
              refine ⟨proper, fun other mem was => ?_⟩
              rcases List.mem_cons.mp was with rfl | was
              · exact here mem
              · exact fresh other mem was

/-- **The names inside a row have no defects exactly when they are proper.** -/
theorem memberNameDefects_eq_nil_iff (role : NameRole) (names : List String) :
    memberNameDefects role [] names = [] ↔ ProperNames names := by
  rw [memberNameDefects_seen_eq_nil_iff]
  simp

/-! ## Look-ups by name -/

section Lookup

variable {ρ : Type} {nameOf : ρ → String} {rows : List ρ}

/-- Something is found under exactly the names that some row has. -/
theorem find?_name_isSome_iff (name : String) :
    (rows.find? (nameOf · == name)).isSome ↔ name ∈ rows.map nameOf := by
  rw [List.find?_isSome, List.mem_map]
  simp only [beq_iff_eq]

/-- What is found under a name has that name. -/
theorem mem_of_find?_name {name : String} {row : ρ}
    (found : rows.find? (nameOf · == name) = some row) : row ∈ rows ∧ nameOf row = name :=
  ⟨List.mem_of_find?_eq_some found, by simpa using List.find?_some found⟩

/-- **Where names are distinct, every row is the one found under its name.** -/
theorem find?_name_eq_some_iff (distinct : (rows.map nameOf).Nodup) {name : String} {row : ρ} :
    rows.find? (nameOf · == name) = some row ↔ row ∈ rows ∧ nameOf row = name := by
  refine ⟨mem_of_find?_name, ?_⟩
  rintro ⟨mem, rfl⟩
  obtain ⟨other, found⟩ := Option.isSome_iff_exists.mp
    ((find?_name_isSome_iff (nameOf row)).mpr (List.mem_map_of_mem mem))
  obtain ⟨otherMem, same⟩ := mem_of_find?_name found
  rw [found, List.inj_on_of_nodup_map distinct otherMem mem same]

end Lookup

end ApiBindings
