import ApiBindings.Proofs.WellFormed
import ApiBindings.Types.Resolve

/-!
# Walks and their bound

Resolution follows typedefs to their targets and is cut after one step more than there are typedefs.
`Walk` is the walk that is not cut, and `walkStops` tells whether the walk that is cut stops by itself.

A walk that ends at all ends within the bound, in every registry (`stops_of_ends`).  In a registry that was
built the bound matters for one reason only: the check of typedefs goes on to the named type of a target,
while resolution looks up the target as it is written.  Where a target with a qualifier or a star is the
name of a typedef, the two part, and resolution may run in a circle that the check does not see
(`HiddenCircle`).  Away from such circles the bound cannot be noticed, and in front of one the walk is
always cut (`walk_bound_iff_no_hidden_circle`).
-/

namespace ApiBindings.Registry

set_option autoImplicit false

open Chain

variable {registry : Registry} {name : String}

/-! ## The walk without a bound -/

/-- A walk that is not cut: the names passed from a name on, and the name it resolves to. -/
inductive Walk (registry : Registry) : String → List String → String → Prop where
  | scalar {name scalar : String} : registry.baseType? name = some scalar →
      Walk registry name [name, scalar] scalar
  | self {name : String} : registry.baseType? name = none → registry.typedef? name = none →
      Walk registry name [name] name
  | follow {name answer : String} {names : List String} {typedef : Typedef} :
      registry.baseType? name = none → registry.typedef? name = some typedef →
      Walk registry typedef.target names answer → Walk registry name (name :: names) answer

/-- Whether a walk of at most `steps` steps meets a base type or a name without a typedef. -/
def walkStops (registry : Registry) : (steps : Nat) → (name : String) → Bool
  | 0, _ => false
  | steps + 1, name =>
    match registry.baseType? name with
    | some _ => true
    | none =>
      match registry.typedef? name with
      | some typedef => walkStops registry steps typedef.target
      | none => true

/-- A typedef on the way whose target is written otherwise than the type it names, and leads back to the
typedef when it is looked up as it is written. -/
def HiddenCircle (registry : Registry) (name : String) : Prop :=
  ∃ typedef ∈ registry.typedefs, Leads registry.walkStep? name typedef.name ∧
    registry.walkStep? typedef.name = some typedef.target ∧
    Leads registry.walkStep? typedef.target typedef.name ∧
    Types.baseName typedef.target ≠ typedef.target

/-! ## Walks that end -/

theorem Walk.ends {names : List String} {answer : String}
    (walk : registry.Walk name names answer) : Ends registry.walkStep? name := by
  induction walk with
  | scalar based => exact .of_none (by rw [walkStep?, based]; rfl)
  | self plain missing => exact .of_none (by rw [walkStep?, plain, missing]; rfl)
  | follow plain found _ ih =>
      exact .of_some (walkStep?_eq_some_iff.mpr ⟨plain, _, found, rfl⟩) ih

/-- Within as many steps as its trail has names a walk stops, and does what it would do without a
bound. -/
theorem walk_of_trail {path : List String} (trail : Trail registry.walkStep? (some name) path)
    {steps : Nat} (enough : path.length ≤ steps) :
    registry.walkStops steps name = true ∧
      registry.Walk name (registry.walkNames steps name) (registry.walk steps name) := by
  induction path generalizing name steps with
  | nil => cases trail
  | cons head rest ih =>
      obtain ⟨_, same, tail⟩ := trail.start
      cases same
      cases steps with
      | zero => simp at enough
      | succ steps =>
          cases based : registry.baseType? head with
          | some scalar =>
              simp only [walkStops, walkNames, walk, based]
              exact ⟨trivial, .scalar based⟩
          | none =>
              cases found : registry.typedef? head with
              | none =>
                  simp only [walkStops, walkNames, walk, based, found]
                  exact ⟨trivial, .self based found⟩
              | some typedef =>
                  rw [walkStep?_eq_some_iff.mpr ⟨based, typedef, found, rfl⟩] at tail
                  obtain ⟨stops, onward⟩ := ih tail (Nat.le_of_succ_le_succ enough)
                  simp only [walkStops, walkNames, walk, based, found]
                  exact ⟨stops, .follow based found onward⟩

/-- A walk that stops by itself has come to an end. -/
theorem ends_of_stops {steps : Nat} (stops : registry.walkStops steps name = true) :
    Ends registry.walkStep? name := by
  induction steps generalizing name with
  | zero => cases stops
  | succ steps ih =>
      cases based : registry.baseType? name with
      | some scalar => exact .of_none (by rw [walkStep?, based]; rfl)
      | none =>
          cases found : registry.typedef? name with
          | none => exact .of_none (by rw [walkStep?, based, found]; rfl)
          | some typedef =>
              simp only [walkStops, based, found] at stops
              exact .of_some (walkStep?_eq_some_iff.mpr ⟨based, typedef, found, rfl⟩) (ih stops)

/-- A walk that is cut has passed as many names as the bound allows. -/
theorem length_walkNames_of_cut {steps : Nat} (cut : registry.walkStops steps name = false) :
    (registry.walkNames steps name).length = steps + 1 := by
  induction steps generalizing name with
  | zero => rfl
  | succ steps ih =>
      cases based : registry.baseType? name with
      | some scalar => simp [walkStops, based] at cut
      | none =>
          cases found : registry.typedef? name with
          | none => simp [walkStops, based, found] at cut
          | some typedef =>
              simp only [walkStops, based, found] at cut
              simp only [walkNames, based, found, List.length_cons, ih cut]

/-- The walk without a bound leads to one answer only, by one way. -/
theorem Walk.unique {names others : List String} {answer other : String}
    (walk : registry.Walk name names answer) (again : registry.Walk name others other) :
    names = others ∧ answer = other := by
  induction walk generalizing others other with
  | scalar based =>
      cases again with
      | scalar based' =>
          cases based.symm.trans based'
          exact ⟨rfl, rfl⟩
      | self plain _ => cases based.symm.trans plain
      | follow plain _ _ => cases based.symm.trans plain
  | self plain missing =>
      cases again with
      | scalar based => cases plain.symm.trans based
      | self _ _ => exact ⟨rfl, rfl⟩
      | follow _ found _ => cases missing.symm.trans found
  | follow plain found _ ih =>
      cases again with
      | scalar based => cases plain.symm.trans based
      | self _ missing => cases found.symm.trans missing
      | follow _ found' onward =>
          cases found.symm.trans found'
          obtain ⟨rfl, rfl⟩ := ih onward
          exact ⟨rfl, rfl⟩

/-- **A walk that ends does so within the bound, in every registry.** -/
theorem stops_of_ends (ends : Ends registry.walkStep? name) {steps : Nat}
    (enough : registry.walkBound ≤ steps) :
    registry.walkStops steps name = true ∧
      registry.Walk name (registry.walkNames steps name) (registry.walk steps name) := by
  obtain ⟨path, trail⟩ := ends
  have short := trail.length_le fun _ => mem_names_of_walkStep?
  rw [List.length_map] at short
  exact walk_of_trail trail (short.trans enough)

/-- A name resolves to where its walk without a bound leads. -/
theorem Walk.resolve_eq {names : List String} {answer : String}
    (walk : registry.Walk name names answer) : registry.resolve name = answer :=
  ((stops_of_ends walk.ends le_rfl).2.unique walk).2

theorem exists_walk (ends : Ends registry.walkStep? name) :
    ∃ names, registry.Walk name names (registry.resolve name) :=
  ⟨_, (stops_of_ends ends le_rfl).2⟩

/-! ## Circles that the check of typedefs does not see -/

/-- Where no target on a circle is written otherwise than the type it names, the check's walk runs in the
same circle. -/
theorem not_circular_of_checked (checked : ∀ name, Ends registry.checkedStep? name)
    (open_ : ¬ registry.HiddenCircle name) :
    ∀ met, Leads registry.walkStep? name met → ¬ Circular registry.walkStep? met := by
  intro met reached circular
  have same : ∀ further, Leads registry.walkStep? met further →
      registry.walkStep? further = registry.checkedStep? further := by
    intro further leads
    obtain ⟨target, link⟩ := Option.isSome_iff_exists.mp (circular.isSome leads)
    obtain ⟨plain, typedef, found, rfl⟩ := walkStep?_eq_some_iff.mp link
    obtain ⟨mem, rfl⟩ := mem_of_find?_name found
    have back := (circular.leads_back (leads.tail link)).trans leads
    have written : Types.baseName typedef.target = typedef.target := by
      by_contra otherwise
      exact open_ ⟨typedef, mem, reached.trans leads, link, back, otherwise⟩
    rw [link, checkedStep?_of_typedef? plain found, written]
  exact ((checked met).congr same).not_circular circular

/-- A hidden circle is a circle. -/
theorem HiddenCircle.not_ends (hidden : registry.HiddenCircle name) :
    ¬ Ends registry.walkStep? name := by
  obtain ⟨typedef, -, reached, link, back, -⟩ := hidden
  exact fun ends => (ends.of_leads reached).not_circular ⟨typedef.target, link, back⟩

/-- Where the check's walk ends from every name, resolution ends exactly where it is led into no hidden
circle. -/
theorem ends_walkStep?_iff (checked : ∀ name, Ends registry.checkedStep? name) (name : String) :
    Ends registry.walkStep? name ↔ ¬ registry.HiddenCircle name := by
  constructor
  · exact fun ends hidden => hidden.not_ends ends
  · intro open_
    rw [ends_iff_not_circular fun _ => mem_names_of_walkStep?]
    exact not_circular_of_checked checked open_

/-- **In a registry that was built, a walk stops by itself, and is the walk without a bound, exactly where
it is led into no hidden circle; in front of a hidden circle every walk is cut.** -/
theorem walk_bound_iff_no_hidden_circle {document : Document}
    (built : document.build = .ok registry) (name : String) :
    (¬ registry.HiddenCircle name →
      registry.walkStops registry.walkBound name = true ∧
      registry.Walk name (registry.chain name) (registry.resolve name) ∧
      ∀ steps, registry.walkBound ≤ steps → registry.walk steps name = registry.resolve name ∧
        registry.walkNames steps name = registry.chain name) ∧
    (registry.HiddenCircle name →
      registry.walkStops registry.walkBound name = false ∧
      (registry.chain name).length = registry.walkBound + 1 ∧
      ∀ names answer, ¬ registry.Walk name names answer) := by
  obtain ⟨sound, rfl⟩ := Document.build_eq_ok_iff.mp built
  have decided := ends_walkStep?_iff sound.ends_checkedStep? name
  constructor
  · intro open_
    have ends := decided.mpr open_
    obtain ⟨stops, walk⟩ := stops_of_ends ends le_rfl
    refine ⟨stops, walk, fun steps enough => ?_⟩
    obtain ⟨names, answer⟩ := (stops_of_ends ends enough).2.unique walk
    exact ⟨answer, names⟩
  · intro hidden
    have cut : document.registry.walkStops document.registry.walkBound name = false :=
      Bool.eq_false_iff.mpr fun stops => hidden.not_ends (ends_of_stops stops)
    exact ⟨cut, length_walkNames_of_cut cut, fun names answer walk => hidden.not_ends walk.ends⟩

/-- A typedef of a base type, and a typedef that is written as its own target: to the check the second is
a typedef of a native scalar. -/
def qualifiedLoop : Document :=
  { Document.empty with
    typedefs := [⟨"Flags", "Bits"⟩, ⟨"const int", "const int"⟩]
    baseTypes := [⟨"Bits", "uint32_t"⟩] }

theorem qualifiedLoop_built : qualifiedLoop.build = .ok qualifiedLoop.registry :=
  Document.build_of_problems_eq_nil (by decide +kernel)

theorem qualifiedLoop_hidden : qualifiedLoop.registry.HiddenCircle "const int" :=
  ⟨⟨"const int", "const int"⟩, by decide, .refl, rfl, .refl, by decide +kernel⟩

theorem qualifiedLoop_open : ¬ qualifiedLoop.registry.HiddenCircle "Flags" := by
  intro hidden
  exact hidden.not_ends (.of_some rfl (.of_none rfl))

/-- Both halves at once: `Flags` resolves by itself, `const int` is cut. -/
theorem walk_bound_in_qualifiedLoop :
    qualifiedLoop.build = .ok qualifiedLoop.registry ∧
    qualifiedLoop.registry.Walk "Flags" ["Flags", "Bits", "uint32_t"] "uint32_t" ∧
    qualifiedLoop.registry.walkStops qualifiedLoop.registry.walkBound "const int" = false :=
  ⟨qualifiedLoop_built,
    ((walk_bound_iff_no_hidden_circle qualifiedLoop_built "Flags").1 qualifiedLoop_open).2.1,
    ((walk_bound_iff_no_hidden_circle qualifiedLoop_built "const int").2 qualifiedLoop_hidden).1⟩

/-- The check of typedefs lets through a registry in which a walk never stops by itself. -/
theorem build_accepts_endless_walk :
    (∃ registry, qualifiedLoop.build = .ok registry ∧
      registry.walkStops registry.walkBound "const int" = false ∧
      ∀ names answer, ¬ registry.Walk "const int" names answer) :=
  ⟨qualifiedLoop.registry, qualifiedLoop_built, by decide +kernel,
    fun _ _ walk => qualifiedLoop_hidden.not_ends walk.ends⟩

end ApiBindings.Registry
