import ApiBindings.Registry.Chain
import Mathlib.Data.List.Perm.Subperm
import Mathlib.Logic.Relation

/-!
# Trails

Aliases, typedefs and base-type rows all lead from one name to the next.  What they have in common is a
partial function `next` that is followed from a name on.  A trail is the finite list of names met until
`next` has no value.

A trail meets no name twice (`Trail.nodup`), so its length is bounded by the number of names at which
`next` goes on (`Trail.length_le`), and a name with a trail lies on no circle (`Ends.not_circular`).  Over
a finite set of names a name without a trail leads into a circle (`ends_iff_not_circular`).

`Chain.fault?` finds no fault exactly when there is a trail of declared names, none of them passed before
(`fault?_eq_none_iff`).  It finds a cycle exactly when there is no trail, or one on which a name lies that was
passed before (`exists_fault?_eq_cycle_iff`).
-/

namespace ApiBindings.Chain

set_option autoImplicit false

variable {ν : Type} {next : ν → Option ν}

/-- The names met from a start on, until `next` has no value. -/
inductive Trail (next : ν → Option ν) : Option ν → List ν → Prop where
  | done : Trail next none []
  | link {name : ν} {names : List ν} :
      Trail next (next name) names → Trail next (some name) (name :: names)

/-- Following `next` from a name comes to an end. -/
def Ends (next : ν → Option ν) (name : ν) : Prop := ∃ names, Trail next (some name) names

/-- A number of links, possibly none, lead from one name to another. -/
abbrev Leads (next : ν → Option ν) : ν → ν → Prop :=
  Relation.ReflTransGen fun name target => next name = some target

/-- A name to which its own links lead back. -/
def Circular (next : ν → Option ν) (name : ν) : Prop :=
  ∃ target, next name = some target ∧ Leads next target name

/-! ## Trails from a name -/

theorem Trail.start {name : ν} {names : List ν} (trail : Trail next (some name) names) :
    ∃ rest, names = name :: rest ∧ Trail next (next name) rest := by
  cases trail with
  | link rest => exact ⟨_, rfl, rest⟩

theorem Trail.unique {start : Option ν} {names others : List ν} (trail : Trail next start names)
    (other : Trail next start others) : names = others := by
  induction trail generalizing others with
  | done =>
      cases other with
      | done => rfl
  | link _ ih =>
      cases other with
      | link rest => rw [ih rest]

theorem Ends.of_none {name : ν} (stop : next name = none) : Ends next name :=
  ⟨[name], .link (stop ▸ .done)⟩

theorem Ends.of_some {name target : ν} (link : next name = some target)
    (ends : Ends next target) : Ends next name := by
  obtain ⟨names, trail⟩ := ends
  exact ⟨name :: names, .link (link ▸ trail)⟩

theorem Ends.target {name target : ν} (ends : Ends next name) (link : next name = some target) :
    Ends next target := by
  obtain ⟨names, trail⟩ := ends
  obtain ⟨rest, -, trail⟩ := trail.start
  exact ⟨rest, link ▸ trail⟩

/-- Whatever holds of a name when it holds of its target holds of every name with a trail. -/
theorem Ends.induction {motive : ν → Prop}
    (step : ∀ name, (∀ target, next name = some target → motive target) → motive name)
    {name : ν} (ends : Ends next name) : motive name := by
  obtain ⟨names, trail⟩ := ends
  induction names generalizing name with
  | nil => cases trail
  | cons head rest ih =>
      obtain ⟨_, same, trail⟩ := trail.start
      cases same
      exact step head fun target link => ih (link ▸ trail)

theorem Ends.of_leads {name target : ν} (ends : Ends next name) (leads : Leads next name target) :
    Ends next target := by
  induction leads with
  | refl => exact ends
  | tail _ link ih => exact ih.target link

/-- A trail leads to a name that has no target. -/
theorem Ends.exists_last {name : ν} (ends : Ends next name) :
    ∃ last, Leads next name last ∧ next last = none := by
  refine ends.induction (motive := fun name => ∃ last, Leads next name last ∧ next last = none) ?_
  intro name ih
  cases link : next name with
  | none => exact ⟨name, .refl, link⟩
  | some target =>
      obtain ⟨last, leads, stop⟩ := ih target link
      exact ⟨last, .head link leads, stop⟩

/-- Nothing lies behind a name that has no target. -/
theorem eq_of_leads {last name : ν} (leads : Leads next last name) (stop : next last = none) :
    last = name := by
  rcases Relation.ReflTransGen.cases_head leads with same | ⟨target, link, -⟩
  · exact same
  · rw [stop] at link
    cases link

/-- All the names without a target to which a name leads are one name. -/
theorem last_unique {name last other : ν} (leads : Leads next name last) (stop : next last = none)
    (leadsOther : Leads next name other) (stopOther : next other = none) : last = other := by
  have unique : Relator.RightUnique fun name target => next name = some target :=
    fun _ _ _ link other => Option.some.inj (link.symm.trans other)
  rcases Relation.ReflTransGen.total_of_right_unique unique leads leadsOther with onward | onward
  · exact eq_of_leads onward stop
  · exact (eq_of_leads onward stopOther).symm

/-! ## The names of a trail -/

/-- From each of its names on, the rest of a trail is a trail. -/
theorem Trail.from_mem {start : Option ν} {names : List ν} (trail : Trail next start names)
    {name : ν} (mem : name ∈ names) :
    ∃ rest, Trail next (some name) rest ∧ rest <:+ names := by
  induction trail with
  | done => cases mem
  | @link head names trail ih =>
      rcases List.mem_cons.mp mem with rfl | mem
      · exact ⟨_, .link trail, List.suffix_refl _⟩
      · obtain ⟨rest, found, suffix⟩ := ih mem
        exact ⟨rest, found, suffix.trans (List.suffix_cons _ _)⟩

/-- **A trail meets no name twice.** -/
theorem Trail.nodup {start : Option ν} {names : List ν} (trail : Trail next start names) :
    names.Nodup := by
  induction trail with
  | done => exact List.nodup_nil
  | @link head names trail ih =>
      refine List.nodup_cons.mpr ⟨fun again => ?_, ih⟩
      -- The trail from the second occurrence is the whole trail, and yet a part of its tail.
      obtain ⟨rest, found, suffix⟩ := trail.from_mem again
      have whole : rest = head :: names := found.unique (.link trail)
      have short := suffix.length_le
      rw [whole, List.length_cons] at short
      omega

theorem Trail.mem_of_leads {name target : ν} {names : List ν}
    (trail : Trail next (some name) names) (leads : Leads next name target) : target ∈ names := by
  induction leads using Relation.ReflTransGen.head_induction_on generalizing names with
  | refl =>
      obtain ⟨rest, rfl, -⟩ := trail.start
      exact List.mem_cons_self
  | head link _ ih =>
      obtain ⟨rest, rfl, tail⟩ := trail.start
      rw [link] at tail
      exact List.mem_cons_of_mem _ (ih tail)

theorem Trail.leads_of_mem {start : Option ν} {names : List ν} (trail : Trail next start names) :
    ∀ name ∈ start, ∀ target ∈ names, Leads next name target := by
  induction trail with
  | done => simp
  | @link head names trail ih =>
      intro name same target mem
      obtain rfl : head = name := by simpa using same
      rcases List.mem_cons.mp mem with rfl | mem
      · exact .refl
      · cases continued : next head with
        | none =>
            rw [continued] at trail
            cases trail
            cases mem
        | some second => exact .head continued (ih second continued target mem)

/-- A name with a trail lies on no circle. -/
theorem Ends.not_circular {name : ν} (ends : Ends next name) : ¬ Circular next name := by
  rintro ⟨target, link, back⟩
  obtain ⟨names, trail⟩ := ends
  obtain ⟨rest, rfl, tail⟩ := trail.start
  rw [link] at tail
  exact (List.nodup_cons.mp trail.nodup).1 (tail.mem_of_leads back)

/-- Nothing on the way from a name that has a trail leads back to it. -/
theorem Ends.ne_some_of_leads {name met : ν} (ends : Ends next name) (leads : Leads next name met) :
    next met ≠ some name :=
  fun link => (ends.of_leads leads).not_circular ⟨name, link, leads⟩

/-- Before the last name of a trail `next` goes on. -/
theorem Trail.isSome_of_mem_dropLast {start : Option ν} {names : List ν}
    (trail : Trail next start names) : ∀ name ∈ names.dropLast, (next name).isSome := by
  induction trail with
  | done => simp
  | @link head names trail ih =>
      intro name mem
      cases trail' : names with
      | nil => simp [trail'] at mem
      | cons second rest =>
          rw [trail', List.dropLast_cons_cons, List.mem_cons] at mem
          rcases mem with rfl | mem
          · cases continued : next name with
            | none =>
                rw [continued] at trail
                cases trail
                cases trail'
            | some target => rfl
          · exact ih name (trail' ▸ mem)

/-- **A trail is at most one name longer than the list of the names that lead on.** -/
theorem Trail.length_le {start : Option ν} {names declared : List ν}
    (trail : Trail next start names) (goesOn : ∀ name, (next name).isSome → name ∈ declared) :
    names.length ≤ declared.length + 1 := by
  have distinct : names.dropLast.Nodup := trail.nodup.sublist (List.dropLast_sublist names)
  have inside : names.dropLast ⊆ declared :=
    fun name mem => goesOn name (trail.isSome_of_mem_dropLast name mem)
  have short := (List.subperm_of_subset distinct inside).length_le
  rw [List.length_dropLast] at short
  omega

/-- From a circle every way leads back to where it began. -/
theorem Circular.leads_back {name met : ν} (circular : Circular next name)
    (leads : Leads next name met) : Leads next met name := by
  induction leads with
  | refl => exact .refl
  | @tail met target _ link ih =>
      rcases Relation.ReflTransGen.cases_head ih with rfl | ⟨second, onward, back⟩
      · obtain ⟨second, onward, back⟩ := circular
        obtain rfl : second = target := Option.some.inj (onward.symm.trans link)
        exact back
      · obtain rfl : second = target := Option.some.inj (onward.symm.trans link)
        exact back

/-- On a circle every name leads on. -/
theorem Circular.isSome {name met : ν} (circular : Circular next name)
    (leads : Leads next name met) : (next met).isSome := by
  rcases Relation.ReflTransGen.cases_head (circular.leads_back leads) with rfl | ⟨target, link, _⟩
  · obtain ⟨target, link, _⟩ := circular
    rw [link]
    rfl
  · rw [link]
    rfl

theorem Circular.of_leads {name met : ν} (circular : Circular next name)
    (leads : Leads next name met) : Circular next met := by
  obtain ⟨target, link⟩ := Option.isSome_iff_exists.mp (circular.isSome leads)
  exact ⟨target, link, (circular.leads_back (leads.tail link)).trans leads⟩

/-- A function has a trail from a name if it agrees, on all the names that it meets, with one that
has. -/
theorem Ends.congr {other : ν → Option ν} {name : ν} (ends : Ends next name)
    (agree : ∀ met, Leads other name met → other met = next met) : Ends other name := by
  revert agree
  refine ends.induction (motive := fun name => (∀ met, Leads other name met → other met = next met) →
    Ends other name) ?_
  intro name ih agree
  have here := agree name .refl
  cases continued : next name with
  | none => exact .of_none (here.trans continued)
  | some target =>
      have link := here.trans continued
      exact .of_some link (ih target continued fun met leads => agree met (.head link leads))

/-! ## Names from a finite list -/

section Declared

variable {next : String → Option String} {declared : List String}

/-- Every earlier name leads back to a name that was passed before, so such a name is circular. -/
theorem ends_or_circular_of_passed (goesOn : ∀ name, (next name).isSome → name ∈ declared)
    (passed : List String) (name : String)
    (through : ∀ earlier ∈ passed, ∃ target, next earlier = some target ∧ Leads next target name) :
    Ends next name ∨ ∃ met, Leads next name met ∧ Circular next met := by
  cases continued : next name with
  | none => exact .inl (.of_none continued)
  | some target =>
      by_cases again : name ∈ passed
      · exact .inr ⟨name, .refl, through name again⟩
      · have fewer := unpassed_cons_lt (goesOn name (by simp [continued])) again
        have onward : ∀ earlier ∈ name :: passed,
            ∃ second, next earlier = some second ∧ Leads next second target := by
          intro earlier mem
          rcases List.mem_cons.mp mem with rfl | mem
          · exact ⟨target, continued, .refl⟩
          · obtain ⟨second, link, leads⟩ := through earlier mem
            exact ⟨second, link, leads.tail continued⟩
        rcases ends_or_circular_of_passed goesOn (name :: passed) target onward with
          ends | ⟨met, leads, circular⟩
        · exact .inl (.of_some continued ends)
        · exact .inr ⟨met, .head continued leads, circular⟩
  termination_by unpassed declared passed

/-- **Where only finitely many names lead on, a name has a trail or leads into a circle.** -/
theorem ends_iff_not_circular (goesOn : ∀ name, (next name).isSome → name ∈ declared)
    {name : String} : Ends next name ↔ ∀ met, Leads next name met → ¬ Circular next met := by
  constructor
  · exact fun ends met leads => (ends.of_leads leads).not_circular
  · intro straight
    rcases ends_or_circular_of_passed goesOn [] name (by simp) with ends | ⟨met, leads, circular⟩
    · exact ends
    · exact absurd circular (straight met leads)

/-- **A chain is faultless exactly when it is a trail of declared names, none of them passed
before.** -/
theorem fault?_eq_none_iff (passed : List String) (target : Option String) :
    fault? next declared passed target = none ↔
      ∃ names, Trail next target names ∧ ∀ name ∈ names, name ∈ declared ∧ name ∉ passed := by
  constructor
  · intro faultless
    fun_induction fault? next declared passed target with
    | case1 => exact ⟨[], .done, by simp⟩
    | case2 | case4 => simp at faultless
    | case3 passed name known fresh ih =>
        obtain ⟨names, trail, sound⟩ := ih faultless
        refine ⟨name :: names, .link trail, fun met mem => ?_⟩
        rcases List.mem_cons.mp mem with rfl | mem
        · exact ⟨known, fresh⟩
        · exact ⟨(sound met mem).1, fun was => (sound met mem).2 (List.mem_cons_of_mem _ was)⟩
  · rintro ⟨names, trail, sound⟩
    induction trail generalizing passed with
    | done => rw [fault?]
    | @link name names trail ih =>
        obtain ⟨known, fresh⟩ := sound name List.mem_cons_self
        rw [fault?, dif_pos known, dif_neg fresh]
        refine ih _ fun met mem => ⟨(sound met (List.mem_cons_of_mem _ mem)).1, fun was => ?_⟩
        rcases List.mem_cons.mp was with rfl | was
        · exact (List.nodup_cons.mp (Trail.link trail).nodup).1 mem
        · exact (sound met (List.mem_cons_of_mem _ mem)).2 was

/-- A chain that is only ever led to declared names finds none that is undeclared. -/
theorem fault?_ne_undeclared (closed : ∀ name target, next name = some target → target ∈ declared)
    (passed : List String) (target : Option String) (known : ∀ name ∈ target, name ∈ declared)
    (missing : String) : fault? next declared passed target ≠ some (.undeclared missing) := by
  fun_induction fault? next declared passed target with
  | case1 | case2 => simp
  | case3 passed name _ _ ih => exact ih fun second link => closed name second link
  | case4 passed name unknown => exact absurd (known name rfl) unknown

/-- **A chain meets a name again exactly when it has no end or comes to a name that was passed before,** as long
as the names that lead on and those that were passed are declared. -/
theorem exists_fault?_eq_cycle_iff (goesOn : ∀ name, (next name).isSome → name ∈ declared)
    {passed : List String} (known : ∀ name ∈ passed, name ∈ declared) (start : Option String) :
    (∃ met, fault? next declared passed start = some (.cycle met)) ↔
      ∃ name ∈ start, ¬ Ends next name ∨ ∃ earlier ∈ passed, Leads next name earlier := by
  fun_induction fault? next declared passed start with
  | case1 => simp
  | case2 passed name _ again =>
      exact iff_of_true ⟨name, rfl⟩ ⟨name, rfl, .inr ⟨name, again, .refl⟩⟩
  | case3 passed name here fresh ih =>
      rw [ih (List.forall_mem_cons.mpr ⟨here, known⟩)]
      constructor
      · rintro ⟨second, link, onward⟩
        refine ⟨name, rfl, ?_⟩
        rcases onward with endless | ⟨earlier, was, leads⟩
        · exact .inl fun ends => endless (ends.target link)
        · rcases List.mem_cons.mp was with rfl | was
          · exact .inl fun ends => ends.not_circular ⟨second, link, leads⟩
          · exact .inr ⟨earlier, was, .head link leads⟩
      · rintro ⟨_, same, onward⟩
        obtain rfl := Option.some.inj same
        rcases onward with endless | ⟨earlier, was, leads⟩
        · obtain ⟨second, link⟩ := Option.ne_none_iff_exists'.mp (mt Ends.of_none endless)
          exact ⟨second, link, .inl (mt (Ends.of_some link) endless)⟩
        · -- The name itself is fresh, so the one that was passed lies behind it.
          rcases Relation.ReflTransGen.cases_head leads with rfl | ⟨second, link, leads⟩
          · exact absurd was fresh
          · exact ⟨second, link, .inr ⟨earlier, List.mem_cons_of_mem _ was, leads⟩⟩
  | case4 passed name unknown =>
      have stop : next name = none := Option.not_isSome_iff_eq_none.mp (mt (goesOn name) unknown)
      refine iff_of_false (by simp) ?_
      rintro ⟨_, same, endless | ⟨earlier, was, leads⟩⟩ <;> obtain rfl := Option.some.inj same
      · exact endless (.of_none stop)
      · exact unknown (eq_of_leads leads stop ▸ known earlier was)

/-- What a chain reports as undeclared is met on it and is no declared name. -/
theorem notMem_of_fault?_eq_undeclared {passed : List String} {start : Option String} {missing : String}
    (found : fault? next declared passed start = some (.undeclared missing)) :
    missing ∉ declared ∧ ∃ name ∈ start, Leads next name missing := by
  fun_induction fault? next declared passed start with
  | case1 | case2 => simp at found
  | case3 passed name _ _ ih =>
      obtain ⟨unknown, second, link, leads⟩ := ih found
      exact ⟨unknown, name, rfl, .head link leads⟩
  | case4 passed name unknown =>
      obtain rfl : name = missing := by simpa using found
      exact ⟨unknown, name, rfl, .refl⟩

end Declared

end ApiBindings.Chain
