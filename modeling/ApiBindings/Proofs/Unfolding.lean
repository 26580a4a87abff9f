import ApiBindings.Proofs.BareWord
import ApiBindings.Proofs.BoundedWalk
import ApiBindings.Types.Expansion

/-!
# Typedefs and base types, row by row

What a type name stands for is written in its row: the base-type row if there is one, or else the typedef.
`Unfolds` follows a spelling one row at a time, puts the pointer levels of each row inside those that are
already there, and stops at a name without a row.  It knows nothing of resolution, of memos or of bounds.

Expansion takes the rows in larger strides, since resolving a name passes over every typedef whose target
is a name as it is written.  Where resolution finds no row under a spelling that is more than a name (`Direct`),
both lead to the same type (`expand_of_unfolds`): a stride passes a part of the rows (`unfolds_of_walk`), and there
are never more rows to pass than the bound of the expansion allows (`Unfolds.length_le`).  That is so wherever the
rows are named by bare words (`BareRows`).
-/

namespace ApiBindings.Registry

set_option autoImplicit false

open Chain ApiBindings.Types

variable {registry : Registry} {name value : String}

/-! ## One row -/

/-- What a name stands for: the value of its base-type row, or else the target of its typedef. -/
def rowOf? (registry : Registry) (name : String) : Option String :=
  (registry.baseType? name).or ((registry.typedef? name).map (·.target))

/-- The named type of what a name stands for. -/
def rowStep? (registry : Registry) (name : String) : Option String :=
  (registry.rowOf? name).map fun value => (Spelling.parse value).base

theorem rowOf?_of_baseType? (based : registry.baseType? name = some value) :
    registry.rowOf? name = some value := by
  rw [rowOf?, based]
  rfl

theorem rowOf?_of_typedef? {typedef : Typedef} (plain : registry.baseType? name = none)
    (found : registry.typedef? name = some typedef) :
    registry.rowOf? name = some typedef.target := by
  rw [rowOf?, plain, found]
  rfl

theorem rowOf?_eq_none_iff : registry.rowOf? name = none ↔
    registry.baseType? name = none ∧ registry.typedef? name = none := by
  rw [rowOf?, Option.or_eq_none_iff, Option.map_eq_none_iff]

theorem rowStep?_of_rowOf? (row : registry.rowOf? name = some value) :
    registry.rowStep? name = some (Spelling.parse value).base := by
  rw [rowStep?, row]
  rfl

theorem rowStep?_eq_none_iff : registry.rowStep? name = none ↔ registry.rowOf? name = none := by
  rw [rowStep?, Option.map_eq_none_iff]

theorem mem_names_of_rowStep? (link : (registry.rowStep? name).isSome) :
    name ∈ registry.baseTypes.map (·.name) ++ registry.typedefs.map (·.name) := by
  rw [rowStep?, Option.isSome_map, rowOf?, Option.isSome_or, Bool.or_eq_true, Option.isSome_map] at link
  rw [List.mem_append, ← baseType?_isSome_iff, ← typedef?_isSome_iff]
  exact link

/-! ## All rows -/

/-- A spelling followed row by row, with the names of the rows, to a name without a row. -/
inductive Unfolds (registry : Registry) : List String → Spelling → Spelling → Prop where
  | done {base : String} {levels : List Bool} : registry.rowOf? base = none →
      Unfolds registry [] ⟨base, levels⟩ ⟨base, levels⟩
  | row {base value : String} {levels : List Bool} {names : List String} {result : Spelling} :
      registry.rowOf? base = some value →
      Unfolds registry names
        ⟨(Spelling.parse value).base, (Spelling.parse value).levels ++ levels⟩ result →
      Unfolds registry (base :: names) ⟨base, levels⟩ result

theorem Unfolds.trail {names : List String} {spelling result : Spelling}
    (unfolds : registry.Unfolds names spelling result) :
    Trail registry.rowStep? (some spelling.base) (names ++ [result.base]) := by
  induction unfolds with
  | done bottom =>
      refine .link ?_
      rw [rowStep?_eq_none_iff.mpr bottom]
      exact .done
  | row row _ ih =>
      refine .link ?_
      rw [rowStep?_of_rowOf? row]
      exact ih

theorem exists_unfolds (ends : Ends registry.rowStep? name) (levels : List Bool) :
    ∃ names result, registry.Unfolds names ⟨name, levels⟩ result := by
  refine ends.induction (motive := fun name => ∀ levels, ∃ names result,
    registry.Unfolds names ⟨name, levels⟩ result) ?_ levels
  intro name ih levels
  cases row : registry.rowOf? name with
  | none => exact ⟨[], _, .done row⟩
  | some value =>
      obtain ⟨names, result, unfolds⟩ := ih _ (rowStep?_of_rowOf? row) _
      exact ⟨name :: names, result, .row row unfolds⟩

/-- The named type alone decides which rows are passed. -/
theorem Unfolds.names_unique {names others : List String} {levels more : List Bool}
    {result other : Spelling} (unfolds : registry.Unfolds names ⟨name, levels⟩ result)
    (again : registry.Unfolds others ⟨name, more⟩ other) : names = others :=
  (List.append_inj (unfolds.trail.unique again.trail) (by
    have same := congrArg List.length (unfolds.trail.unique again.trail)
    simpa using same)).1

/-- No row is passed twice, so there are at most as many rows to pass as the registry has. -/
theorem Unfolds.length_le {names : List String} {spelling result : Spelling}
    (unfolds : registry.Unfolds names spelling result) :
    names.length ≤ registry.typedefs.length + registry.baseTypes.length := by
  have short := unfolds.trail.length_le fun _ => mem_names_of_rowStep?
  simp only [List.length_append, List.length_singleton, List.length_map] at short
  omega

/-! ## One step of expansion -/

theorem eval_expandWithin_succ (resolve : String → String) (steps : Nat) (spelling : Spelling) :
    (spelling.expandWithin (steps + 1)).eval resolve =
      if (Spelling.parse (resolve spelling.base)).base = spelling.base then
        ⟨(Spelling.parse (resolve spelling.base)).base,
          (Spelling.parse (resolve spelling.base)).levels ++ spelling.levels⟩
      else
        ((⟨(Spelling.parse (resolve spelling.base)).base,
          (Spelling.parse (resolve spelling.base)).levels ++ spelling.levels⟩ :
            Spelling).expandWithin steps).eval resolve := by
  have asked : (Resolving.resolution spelling.base).eval resolve = resolve spelling.base := rfl
  rw [Spelling.expandWithin, Resolving.eval_bind, asked]
  by_cases same : (Spelling.parse (resolve spelling.base)).base = spelling.base
  · simp only [if_pos same]
    rfl
  · simp only [if_neg same]

/-! ## Direct rows -/

/-- The rows of the names are unfolded the way resolution follows them: a target that resolution finds as the
name of a row is nothing but that name. -/
def Direct (registry : Registry) (names : List String) : Prop :=
  ∀ name ∈ names, ∀ target, registry.walkStep? name = some target → (registry.rowOf? target).isSome →
    Spelling.parse target = ⟨target, []⟩

theorem rowOf?_of_walkStep? {target : String} (link : registry.walkStep? name = some target) :
    registry.rowOf? name = some target := by
  obtain ⟨plain, typedef, found, rfl⟩ := walkStep?_eq_some_iff.mp link
  exact rowOf?_of_typedef? plain found

theorem walkStep?_of_rowless (missing : registry.rowOf? name = none) : registry.walkStep? name = none := by
  obtain ⟨plain, untyped⟩ := rowOf?_eq_none_iff.mp missing
  rw [walkStep?, plain, untyped]
  rfl

/-- What unfolds to a name without a row is resolved in a walk that ends. -/
theorem Unfolds.ends_walkStep? {names : List String} {spelling result : Spelling}
    (unfolds : registry.Unfolds names spelling result) (direct : registry.Direct names) :
    Ends registry.walkStep? spelling.base := by
  induction unfolds with
  | done bottom => exact .of_none (walkStep?_of_rowless bottom)
  | @row base value levels names result row _ ih =>
      cases link : registry.walkStep? base with
      | none => exact .of_none link
      | some target =>
          obtain rfl : value = target := Option.some.inj (row.symm.trans (rowOf?_of_walkStep? link))
          refine .of_some link ?_
          cases onward : registry.rowOf? value with
          | none => exact .of_none (walkStep?_of_rowless onward)
          | some further =>
              have ends := ih fun name mem => direct name (List.mem_cons_of_mem _ mem)
              rwa [direct base List.mem_cons_self value link (by rw [onward]; rfl)] at ends

/-! ## Strides -/

/-- **A stride passes some of the rows**: what a name resolves to unfolds to the same type as the name, by
fewer rows. -/
theorem unfolds_of_walk {path names : List String} {answer : String} {levels : List Bool}
    {result : Spelling} (walk : registry.Walk name path answer)
    (row : registry.rowOf? name = some value)
    (unfolds : registry.Unfolds names ⟨name, levels⟩ result) (direct : registry.Direct names) :
    ∃ fewer, fewer.length < names.length ∧ registry.Direct fewer ∧ registry.Unfolds fewer
      ⟨(Spelling.parse answer).base, (Spelling.parse answer).levels ++ levels⟩ result := by
  induction walk generalizing names value with
  | scalar based =>
      cases unfolds with
      | done bottom => cases bottom.symm.trans row
      | row row' rest =>
          cases row'.symm.trans (rowOf?_of_baseType? based)
          exact ⟨_, Nat.lt_succ_self _, fun met mem => direct met (List.mem_cons_of_mem _ mem), rest⟩
  | self plain missing => cases row.symm.trans (rowOf?_eq_none_iff.mpr ⟨plain, missing⟩)
  | @follow name answer path typedef plain found walk ih =>
      cases unfolds with
      | done bottom => cases bottom.symm.trans row
      | row row' rest =>
          cases row'.symm.trans (rowOf?_of_typedef? plain found)
          have later := fun met mem => direct met (List.mem_cons_of_mem _ mem)
          cases onward : registry.rowOf? typedef.target with
          | none =>
              -- The target as it is written has no row, so the walk ends there.
              obtain ⟨bottom, missing⟩ := rowOf?_eq_none_iff.mp onward
              cases walk with
              | scalar based => cases bottom.symm.trans based
              | self _ _ => exact ⟨_, Nat.lt_succ_self _, later, rest⟩
              | follow _ found' _ => cases missing.symm.trans found'
          | some value =>
              have link : registry.walkStep? name = some typedef.target :=
                walkStep?_eq_some_iff.mpr ⟨plain, typedef, found, rfl⟩
              rw [direct name List.mem_cons_self _ link (by rw [onward]; rfl)] at rest
              obtain ⟨fewer, less, directly, unfolds⟩ := ih onward rest later
              exact ⟨fewer, Nat.lt_succ_of_lt less, directly, unfolds⟩

/-! ## Expansion -/

/-- With at least as many steps as there are rows to pass, expansion leads to where unfolding leads. -/
theorem eval_expandWithin_of_unfolds {names : List String} {spelling result : Spelling}
    (unfolds : registry.Unfolds names spelling result) (direct : registry.Direct names)
    (bottom : Spelling.parse result.base = ⟨result.base, []⟩) {steps : Nat}
    (enough : names.length ≤ steps) :
    (spelling.expandWithin steps).eval registry.resolve = result := by
  induction steps using Nat.strong_induction_on generalizing names spelling with
  | _ steps ih =>
      have walks := unfolds.ends_walkStep? direct
      cases unfolds with
      | @done base levels missing =>
          have self : registry.resolve base = base := by
            obtain ⟨plain, missing⟩ := rowOf?_eq_none_iff.mp missing
            exact (Walk.self plain missing).resolve_eq
          cases steps with
          | zero => rfl
          | succ steps =>
              rw [eval_expandWithin_succ, self, bottom, if_pos rfl]
              rfl
      | @row base value levels names result row rest =>
          obtain ⟨path, walk⟩ := exists_walk walks
          obtain ⟨fewer, less, directly, onward⟩ := unfolds_of_walk walk row (.row row rest) direct
          cases steps with
          | zero => simp at enough
          | succ steps =>
              have moved : (Spelling.parse (registry.resolve base)).base ≠ base := by
                intro same
                rw [same] at onward
                rw [onward.names_unique (.row row rest)] at less
                exact Nat.lt_irrefl _ less
              rw [eval_expandWithin_succ, if_neg moved]
              simp only [List.length_cons] at enough less
              exact ih steps (Nat.lt_succ_self _) onward directly (by omega)

/-- **Expansion leads to where unfolding leads.** -/
theorem expand_of_unfolds {names : List String} {spelling : String} {result : Spelling}
    (unfolds : registry.Unfolds names (Spelling.parse spelling) result)
    (direct : registry.Direct names) (bottom : Spelling.parse result.base = ⟨result.base, []⟩) :
    (expand registry spelling).eval registry.resolve = result :=
  eval_expandWithin_of_unfolds unfolds direct bottom (Nat.le_succ_of_le unfolds.length_le)

/-! ## Bare rows -/

/-- Rows that are named by bare words and lead to bare words, with walks that end. -/
structure BareRows (registry : Registry) : Prop where
  name : ∀ {name value : String}, registry.rowOf? name = some value → BareWord name
  value : ∀ {name value : String},
    registry.rowOf? name = some value → BareWord (Spelling.parse value).base
  ends : ∀ name, Ends registry.walkStep? name

variable (rows : registry.BareRows)
include rows

theorem BareRows.of_leads {met : String} (leads : Leads registry.rowStep? name met)
    (word : BareWord name) : BareWord met := by
  induction leads with
  | refl => exact word
  | tail _ link ih =>
      obtain ⟨value, row, rfl⟩ := Option.map_eq_some_iff.mp link
      exact rows.value row

theorem BareRows.of_unfolds {names : List String} {spelling result : Spelling}
    (unfolds : registry.Unfolds names spelling result) (word : BareWord spelling.base) :
    BareWord result.base := by
  induction unfolds with
  | done _ => exact word
  | row row _ ih => exact ih (rows.value row)

theorem BareRows.direct (names : List String) : registry.Direct names := by
  intro name _ target _ onward
  obtain ⟨value, row⟩ := Option.isSome_iff_exists.mp onward
  exact (rows.name row).parse

theorem BareRows.expand_of_unfolds {names : List String} {spelling : String} {result : Spelling}
    (unfolds : registry.Unfolds names (Spelling.parse spelling) result)
    (word : BareWord (Spelling.parse spelling).base) :
    (expand registry spelling).eval registry.resolve = result :=
  Registry.expand_of_unfolds unfolds (rows.direct names) (rows.of_unfolds unfolds word).parse

end ApiBindings.Registry
