import ApiBindings.Proofs.BareNames
import Mathlib.Data.Nat.Find
import Mathlib.Logic.Function.Iterate

/-!
# The bound of expansion

Expansion replaces the named type of a spelling by the named type of what it resolves to, and is cut after
one time more than the registry has typedefs and base types.  It has come to its end when the named type is
`Settled`: it resolves to itself, without pointer levels.

The named types that are met are the `nameAfter` of the first, and the last of them is settled exactly when
one of them is.  Where types are named by bare words, whatever settles at all settles within the bound
(`exists_settled_le`).  Nothing in the checks keeps base types from being written in terms of each other,
though.  A circle of rows through a base type never settles, save when a whole turn of it is one resolution
that adds no pointer level (`expand_settled_iff`).
-/

namespace ApiBindings.Registry

set_option autoImplicit false

open Chain ApiBindings.Types

variable {registry : Registry} {name value : String}

/-! ## Settled names -/

/-- The named type of what a name resolves to. -/
def resolvedName (registry : Registry) (name : String) : String :=
  (Spelling.parse (registry.resolve name)).base

/-- A name that resolves to itself, without pointer levels. -/
def Settled (registry : Registry) (name : String) : Prop :=
  Spelling.parse (registry.resolve name) = ⟨name, []⟩

instance (registry : Registry) (name : String) : Decidable (registry.Settled name) :=
  inferInstanceAs (Decidable (Spelling.parse (registry.resolve name) = ⟨name, []⟩))

/-- The named type that is met after a number of resolutions. -/
def nameAfter (registry : Registry) (count : Nat) (name : String) : String :=
  registry.resolvedName^[count] name

theorem Settled.resolvedName (settled : registry.Settled name) :
    registry.resolvedName name = name :=
  congrArg Spelling.base settled

theorem nameAfter_succ (count : Nat) (name : String) :
    registry.nameAfter (count + 1) name = registry.nameAfter count (registry.resolvedName name) :=
  rfl

theorem nameAfter_add (first second : Nat) (name : String) :
    registry.nameAfter (first + second) name =
      registry.nameAfter first (registry.nameAfter second name) :=
  Function.iterate_add_apply _ first second name

theorem Settled.nameAfter (settled : registry.Settled name) (count : Nat) :
    registry.nameAfter count name = name :=
  Function.iterate_fixed settled.resolvedName count

/-- What is met after a settled name is settled. -/
theorem settled_nameAfter_of_le {count later : Nat}
    (settled : registry.Settled (registry.nameAfter count name)) (le : count ≤ later) :
    registry.Settled (registry.nameAfter later name) := by
  obtain ⟨more, rfl⟩ := Nat.exists_eq_add_of_le' le
  rw [nameAfter_add, settled.nameAfter]
  exact settled

/-! ## Expansion and the names it meets -/

theorem base_expandWithin (steps : Nat) (spelling : Spelling) :
    ((spelling.expandWithin steps).eval registry.resolve).base =
      registry.nameAfter steps spelling.base := by
  induction steps generalizing spelling with
  | zero => rfl
  | succ steps ih =>
      have next : (Spelling.parse (registry.resolve spelling.base)).base =
        registry.resolvedName spelling.base := rfl
      rw [eval_expandWithin_succ, next, nameAfter_succ]
      by_cases same : registry.resolvedName spelling.base = spelling.base
      · have stays : registry.nameAfter steps (registry.resolvedName spelling.base) =
            registry.resolvedName spelling.base := by
          rw [same]
          exact Function.iterate_fixed same steps
        rw [if_pos same, stays]
      · rw [if_neg same, ih]

/-- A settled name is not expanded. -/
theorem Settled.eval_expandWithin {spelling : Spelling} (settled : registry.Settled spelling.base)
    (steps : Nat) : (spelling.expandWithin steps).eval registry.resolve = spelling := by
  cases steps with
  | zero => rfl
  | succ steps =>
      have found : Spelling.parse (registry.resolve spelling.base) = ⟨spelling.base, []⟩ := settled
      rw [eval_expandWithin_succ, found, if_pos rfl]
      rfl

/-- Steps after a settled name change nothing. -/
theorem eval_expandWithin_of_settled {count steps : Nat} {spelling : Spelling}
    (settled : registry.Settled (registry.nameAfter count spelling.base)) (enough : count ≤ steps) :
    (spelling.expandWithin steps).eval registry.resolve =
      (spelling.expandWithin count).eval registry.resolve := by
  induction count generalizing steps spelling with
  | zero => rw [Settled.eval_expandWithin settled, Settled.eval_expandWithin settled]
  | succ count ih =>
      obtain ⟨steps, rfl⟩ := Nat.exists_eq_add_of_lt enough
      rw [eval_expandWithin_succ, eval_expandWithin_succ]
      by_cases same : (Spelling.parse (registry.resolve spelling.base)).base = spelling.base
      · rw [if_pos same, if_pos same]
      · rw [if_neg same, if_neg same]
        exact ih settled (Nat.le_add_right count steps)

/-! ## Resolutions and rows -/

theorem settled_of_rowless (word : BareWord name) (missing : registry.rowOf? name = none) :
    registry.Settled name := by
  obtain ⟨plain, untyped⟩ := rowOf?_eq_none_iff.mp missing
  rw [Settled, (Walk.self plain untyped).resolve_eq]
  exact word.parse

section BareRows

variable (rows : registry.BareRows)
include rows

/-- A resolution passes some of the rows. -/
theorem Walk.leads {path : List String} {answer : String} (walk : registry.Walk name path answer)
    (word : BareWord name) : Leads registry.rowStep? name (Spelling.parse answer).base := by
  induction walk with
  | scalar based => exact .single (rowStep?_of_rowOf? (rowOf?_of_baseType? based))
  | self _ _ =>
      rw [word.parse]
  | @follow name answer path typedef plain found walk ih =>
      have link := rowStep?_of_rowOf? (rowOf?_of_typedef? plain found)
      cases onward : registry.rowOf? typedef.target with
      | none =>
          obtain ⟨bottom, untyped⟩ := rowOf?_eq_none_iff.mp onward
          rw [(walk.unique (.self bottom untyped)).2]
          exact .single link
      | some value =>
          have target := rows.name onward
          rw [target.parse] at link
          exact .head link (ih target)

/-- **The target of a row is the next name that is met, or it is passed over**, and then the row and its
target resolve alike. -/
theorem resolvedName_eq_or_resolve_eq {target : String}
    (link : registry.rowStep? name = some target) :
    registry.resolvedName name = target ∨ registry.resolve name = registry.resolve target := by
  obtain ⟨value, row, named⟩ := Option.map_eq_some_iff.mp link
  cases based : registry.baseType? name with
  | some scalar =>
      have same : scalar = value := Option.some.inj ((rowOf?_of_baseType? based).symm.trans row)
      left
      rw [resolvedName, (Walk.scalar based).resolve_eq, same]
      exact named
  | none =>
      cases found : registry.typedef? name with
      | none => cases row.symm.trans (rowOf?_eq_none_iff.mpr ⟨based, found⟩)
      | some typedef =>
          have same : typedef.target = value :=
            Option.some.inj ((rowOf?_of_typedef? based found).symm.trans row)
          obtain ⟨path, walk⟩ := exists_walk (rows.ends typedef.target)
          have alike := (Walk.follow based found walk).resolve_eq
          rw [same] at alike
          cases onward : registry.rowOf? value with
          | none =>
              obtain ⟨bottom, untyped⟩ := rowOf?_eq_none_iff.mp onward
              left
              rw [resolvedName, alike, (Walk.self bottom untyped).resolve_eq]
              exact named
          | some further =>
              have word := rows.name onward
              rw [word.parse] at named
              right
              rw [alike, ← named]

/-- Whatever a row leads to leaves its mark on the names that are met. -/
theorem exists_nameAfter_eq {met : String} (leads : Leads registry.rowStep? name met) :
    ∃ count, registry.nameAfter (count + 1) name = registry.resolvedName met := by
  induction leads using Relation.ReflTransGen.head_induction_on with
  | refl => exact ⟨0, rfl⟩
  | head link _ ih =>
      obtain ⟨count, found⟩ := ih
      rcases resolvedName_eq_or_resolve_eq rows link with next | alike
      · refine ⟨count + 1, ?_⟩
        rw [nameAfter_succ, next]
        exact found
      · refine ⟨count, ?_⟩
        rw [nameAfter_succ, resolvedName, alike]
        exact found

/-- Whatever a settled name leads to resolves to the settled name. -/
theorem Settled.resolve_eq (settled : registry.Settled name) {met : String}
    (leads : Leads registry.rowStep? name met) : registry.resolve met = registry.resolve name := by
  induction leads with
  | refl => rfl
  | tail _ link ih =>
      rcases resolvedName_eq_or_resolve_eq rows link with next | alike
      · rw [Registry.resolvedName, ih] at next
        rw [← next]
        exact congrArg registry.resolve settled.resolvedName
      · exact alike.symm.trans ih

theorem leads_nameAfter (word : BareWord name) (count : Nat) :
    Leads registry.rowStep? name (registry.nameAfter count name) := by
  induction count generalizing name with
  | zero => exact .refl
  | succ count ih =>
      obtain ⟨path, walk⟩ := exists_walk (rows.ends name)
      have leads : Leads registry.rowStep? name (registry.resolvedName name) := walk.leads rows word
      rw [nameAfter_succ]
      exact leads.trans (ih (rows.of_leads leads word))

/-! ## Within the bound -/

omit rows in
/-- Before the first settled name no name is met twice. -/
theorem nameAfter_ne_of_lt {first second last : Nat}
    (least : ∀ count < last, ¬ registry.Settled (registry.nameAfter count name))
    (settled : registry.Settled (registry.nameAfter last name)) (lt : first < second)
    (le : second ≤ last) : registry.nameAfter first name ≠ registry.nameAfter second name := by
  intro same
  refine least (last - second + first) (by omega) ?_
  rw [nameAfter_add, same, ← nameAfter_add, Nat.sub_add_cancel le]
  exact settled

/-- **What settles at all settles within as many resolutions as there are typedefs and base types.** -/
theorem exists_settled_le (word : BareWord name)
    (settles : ∃ count, registry.Settled (registry.nameAfter count name)) :
    ∃ count ≤ registry.typedefs.length + registry.baseTypes.length,
      registry.Settled (registry.nameAfter count name) := by
  refine ⟨Nat.find settles, ?_, Nat.find_spec settles⟩
  have least := fun count (lt : count < Nat.find settles) => Nat.find_min settles lt
  have apart : ∀ first second, first < second → second < Nat.find settles →
      registry.nameAfter first name ≠ registry.nameAfter second name :=
    fun _ _ lt late => nameAfter_ne_of_lt least (Nat.find_spec settles) lt late.le
  have distinct : ((List.range (Nat.find settles)).map (registry.nameAfter · name)).Nodup := by
    refine List.Nodup.map_on (fun first early second late same => ?_) List.nodup_range
    rw [List.mem_range] at early late
    rcases Nat.lt_trichotomy first second with lt | equal | gt
    · exact absurd same (apart _ _ lt late)
    · exact equal
    · exact absurd same.symm (apart _ _ gt early)
  have rows : (List.range (Nat.find settles)).map (registry.nameAfter · name) ⊆
      registry.baseTypes.map (·.name) ++ registry.typedefs.map (·.name) := by
    intro met mem
    obtain ⟨count, before, rfl⟩ := List.mem_map.mp mem
    refine mem_names_of_rowStep? (Option.isSome_iff_ne_none.mpr fun stop => ?_)
    have leads := leads_nameAfter rows word count
    exact least count (List.mem_range.mp before)
      (settled_of_rowless (rows.of_leads leads word) (rowStep?_eq_none_iff.mp stop))
  have short := (List.subperm_of_subset distinct rows).length_le
  simp only [List.length_map, List.length_range, List.length_append] at short
  omega

end BareRows

/-! ## Base types in a circle -/

/-- A base type that is met on the way, whose value leads back to it and names a type that is not settled. -/
def UnsettledCircle (registry : Registry) (name : String) : Prop :=
  ∃ met value, Leads registry.rowStep? name met ∧ registry.baseType? met = some value ∧
    Circular registry.rowStep? met ∧ ¬ registry.Settled (Spelling.parse value).base

/-- What a C spelling is expanded to. -/
def expanded (registry : Registry) (spelling : String) : Spelling :=
  (expand registry spelling).eval registry.resolve

theorem settled_expanded_iff (spelling : String) :
    registry.Settled (registry.expanded spelling).base ↔ ∃ count ≤ expansionBound registry,
      registry.Settled (registry.nameAfter count (Spelling.parse spelling).base) := by
  rw [expanded, expand, base_expandWithin]
  constructor
  · intro settled
    exact ⟨_, le_rfl, settled⟩
  · rintro ⟨count, within, settled⟩
    exact settled_nameAfter_of_le settled within

theorem expandWithin_eq_expanded {spelling : String}
    (settled : registry.Settled (registry.expanded spelling).base) {steps : Nat}
    (enough : expansionBound registry ≤ steps) :
    ((Spelling.parse spelling).expandWithin steps).eval registry.resolve =
      registry.expanded spelling := by
  rw [expanded, expand, base_expandWithin] at settled
  exact eval_expandWithin_of_settled settled enough

section BareNames

variable {document : Document} (sound : document.WellFormed)
  (bare : ∀ name ∈ document.registry.typeNames, BareWord name)
  (values : ∀ row ∈ document.registry.baseTypes, BareWord (Spelling.parse row.target).base)
include sound bare values

/-- From a bare word a settled name is met exactly where no unsettled circle is. -/
theorem exists_settled_iff (word : BareWord name) :
    (∃ count, document.registry.Settled (document.registry.nameAfter count name)) ↔
      ¬ document.registry.UnsettledCircle name := by
  have rows := sound.bareRows bare values
  constructor
  · rintro ⟨count, settled⟩ ⟨met, value, reached, based, circular, unsettled⟩
    -- The settled name lies on the circle, so that the base type resolves to the settled name.
    have around : Leads document.registry.rowStep? (document.registry.nameAfter count name) met := by
      rcases Relation.ReflTransGen.total_of_right_unique
        (fun _ _ _ first second => Option.some.inj (first.symm.trans second)) reached
        (leads_nameAfter rows word count) with onward | back
      · exact circular.leads_back onward
      · exact back
    have alike := Settled.resolve_eq rows settled around
    rw [(Walk.scalar based).resolve_eq] at alike
    refine unsettled ?_
    rw [alike, settled]
    exact settled
  · intro open_
    by_cases closed : document.registry.BaseTypeCircle name
    · obtain ⟨met, reached, based, circular⟩ := closed
      obtain ⟨value, based⟩ := Option.isSome_iff_exists.mp based
      obtain ⟨count, found⟩ := exists_nameAfter_eq rows reached
      refine ⟨count + 1, by_contra fun unsettled => open_ ⟨met, value, reached, based, circular, ?_⟩⟩
      rw [found, resolvedName, (Walk.scalar based).resolve_eq] at unsettled
      exact unsettled
    · obtain ⟨last, reached, stop⟩ := ((sound.ends_rowStep?_iff bare name).mpr closed).exists_last
      have settled : document.registry.Settled last :=
        settled_of_rowless (rows.of_leads reached word) (rowStep?_eq_none_iff.mp stop)
      obtain ⟨count, found⟩ := exists_nameAfter_eq rows reached
      rw [settled.resolvedName] at found
      exact ⟨count + 1, found ▸ settled⟩

end BareNames

/-- **Expansion ends at a settled name exactly where it meets one within its bound, and then no larger
bound changes the result.**  Between bare words that is everywhere but in front of base types written in
terms of each other, and there the expansion stops before its bound. -/
theorem expand_settled_iff {document : Document} {registry : Registry}
    (built : document.build = .ok registry) (spelling : String) :
    (registry.Settled (registry.expanded spelling).base ↔ ∃ count ≤ expansionBound registry,
      registry.Settled (registry.nameAfter count (Spelling.parse spelling).base)) ∧
    (registry.Settled (registry.expanded spelling).base → ∀ steps, expansionBound registry ≤ steps →
      ((Spelling.parse spelling).expandWithin steps).eval registry.resolve =
        registry.expanded spelling) ∧
    ((∀ name ∈ registry.typeNames, BareWord name) →
      (∀ row ∈ registry.baseTypes, BareWord (Spelling.parse row.target).base) →
      BareWord (Spelling.parse spelling).base →
      (registry.Settled (registry.expanded spelling).base ↔
        ¬ registry.UnsettledCircle (Spelling.parse spelling).base) ∧
      (registry.Settled (registry.expanded spelling).base → ∃ count < expansionBound registry,
        registry.Settled (registry.nameAfter count (Spelling.parse spelling).base))) := by
  obtain ⟨sound, rfl⟩ := Document.build_eq_ok_iff.mp built
  refine ⟨settled_expanded_iff spelling, fun settled _ => expandWithin_eq_expanded settled, ?_⟩
  intro bare values word
  have early := exists_settled_le (sound.bareRows bare values) word
  refine ⟨?_, ?_⟩
  · rw [settled_expanded_iff, ← exists_settled_iff sound bare values word]
    constructor
    · rintro ⟨count, -, settled⟩
      exact ⟨count, settled⟩
    · intro settles
      obtain ⟨count, within, settled⟩ := early settles
      exact ⟨count, Nat.le_succ_of_le within, settled⟩
  · intro settled
    obtain ⟨count, -, settled⟩ := (settled_expanded_iff spelling).mp settled
    obtain ⟨count, within, settled⟩ := early ⟨count, settled⟩
    exact ⟨count, Nat.lt_succ_of_le within, settled⟩

/-- Two base types that are each written as the other, beside flags that end at a native scalar. -/
def circledBases : Document :=
  { Document.empty with
    typedefs := [⟨"Flags", "const Bits *"⟩]
    baseTypes := [⟨"A", "B"⟩, ⟨"B", "A"⟩, ⟨"Bits", "uint32_t"⟩] }

theorem circledBases_built : circledBases.build = .ok circledBases.registry :=
  Document.build_of_problems_eq_nil (by decide +kernel)

theorem circledBases_unsettled : circledBases.registry.UnsettledCircle "A" := by
  have there : circledBases.registry.rowStep? "A" = some "B" := by decide +kernel
  have back : circledBases.registry.rowStep? "B" = some "A" := by decide +kernel
  exact ⟨"A", "B", .refl, by decide +kernel, ⟨"B", there, .single back⟩, by decide +kernel⟩

/-- `Flags *` is expanded to a settled name, and `A` to none. -/
theorem expand_settled_in_circledBases :
    circledBases.registry.Settled (circledBases.registry.expanded "Flags *").base ∧
    (∀ steps, expansionBound circledBases.registry ≤ steps →
      ((Spelling.parse "Flags *").expandWithin steps).eval circledBases.registry.resolve =
        circledBases.registry.expanded "Flags *") ∧
    ¬ circledBases.registry.Settled (circledBases.registry.expanded "A").base := by
  have settled : circledBases.registry.Settled (circledBases.registry.expanded "Flags *").base :=
    (expand_settled_iff circledBases_built "Flags *").1.mpr ⟨2, by decide, by decide +kernel⟩
  have word : Spelling.parse "A" = ⟨"A", []⟩ := by decide +kernel
  refine ⟨settled, (expand_settled_iff circledBases_built "Flags *").2.1 settled, fun unsettled => ?_⟩
  obtain ⟨exactly, -⟩ := (expand_settled_iff circledBases_built "A").2.2 (by decide +kernel)
    (by decide +kernel) (by rw [word]; decide +kernel)
  rw [word] at exactly
  exact exactly.mp unsettled circledBases_unsettled

/-- The checks let through a registry in which an expansion is cut by its bound: the name it stops at is
not settled, and one step more leads to another one. -/
theorem build_accepts_unsettled_expansion : ∃ registry, circledBases.build = .ok registry ∧
    ¬ registry.Settled (registry.expanded "A").base ∧
    ((Spelling.parse "A").expandWithin (expansionBound registry + 1)).eval registry.resolve ≠
      registry.expanded "A" :=
  ⟨circledBases.registry, circledBases_built, by decide +kernel, by decide +kernel⟩

end ApiBindings.Registry
