import ApiBindings.Proofs.BoundedWalk

/-!
# Names passed on a walk

Resolution gives the last name of a walk, and a chain gives all names of it.  Both follow the same rows under the
same bound: a chain begins with the name that is asked for and ends with what it resolves to, and from each name to
the next there is a row, of the base-type table for the last step at most.

Where a walk stops by itself, all names on it resolve alike (`chain_matches_resolve`).  The walk from a later name
has the same bound and less far to go, so it stops too, and what is left of the chain is its chain.  A value of the
base-type table at the end is no name on the walk, and may well be the name of another row.
-/

namespace ApiBindings.Registry

set_option autoImplicit false

variable {registry : Registry} {name : String}

/-! ## One name and the next -/

/-- The last name of a walk is what it resolves to, also where it is cut. -/
theorem getLast?_walkNames (steps : Nat) (name : String) :
    (registry.walkNames steps name).getLast? = some (registry.walk steps name) := by
  induction steps generalizing name with
  | zero => rfl
  | succ steps ih =>
      rw [walkNames, walk]
      split
      · rfl
      · split
        · rw [List.getLast?_cons, ih, Option.getD_some]
        · rfl

theorem singleton_ne_append_pair (name : String) (front : List String) (met next : String)
    (rest : List String) : [name] ≠ front ++ met :: next :: rest := by
  intro same
  have short := congrArg List.length same
  rw [List.length_append] at short
  simp only [List.length_cons, List.length_nil] at short
  omega

/-- From a name on a walk to the next there is a row; one of the base-type table ends the walk. -/
theorem row_between_walkNames {steps : Nat} {front rest : List String} {met next : String}
    (passed : registry.walkNames steps name = front ++ met :: next :: rest) :
    registry.baseType? met = some next ∧ rest = [] ∨
      registry.baseType? met = none ∧ ∃ typedef, registry.typedef? met = some typedef ∧
        typedef.target = next := by
  induction steps generalizing name front with
  | zero =>
      rw [walkNames] at passed
      exact absurd passed (singleton_ne_append_pair _ _ _ _ _)
  | succ steps ih =>
      rw [walkNames] at passed
      cases based : registry.baseType? name with
      | some scalar =>
          simp only [based] at passed
          cases front with
          | nil =>
              cases passed
              exact .inl ⟨based, rfl⟩
          | cons head front =>
              obtain ⟨-, later⟩ := List.cons.inj passed
              exact absurd later (singleton_ne_append_pair _ _ _ _ _)
      | none =>
          cases found : registry.typedef? name with
          | none =>
              simp only [based, found] at passed
              exact absurd passed (singleton_ne_append_pair _ _ _ _ _)
          | some typedef =>
              simp only [based, found] at passed
              cases front with
              | nil =>
                  obtain ⟨rfl, later⟩ := List.cons.inj passed
                  have first := registry.head?_walkNames steps typedef.target
                  rw [later, List.head?_cons] at first
                  exact .inr ⟨based, typedef, found, (Option.some.inj first).symm⟩
              | cons head front => exact ih (List.cons.inj passed).2

/-! ## The walk from a later name -/

/-- From each of its names on, what is left of a walk is a walk to the same answer; only the value of a base type
is no name to go on from. -/
theorem Walk.from_passed {names front rest : List String} {answer met : String}
    (walk : registry.Walk name names answer) (passed : names = front ++ met :: rest) :
    registry.Walk met (met :: rest) answer ∨
      rest = [] ∧ ∃ earlier before, front = earlier ++ [before] ∧ registry.baseType? before = some met := by
  induction walk generalizing front with
  | @scalar name scalar based =>
      cases front with
      | nil =>
          cases passed
          exact .inl (.scalar based)
      | cons head front =>
          obtain ⟨rfl, later⟩ := List.cons.inj passed
          obtain ⟨rfl, only⟩ := List.append_eq_singleton_iff.mp later.symm |>.resolve_right (by simp)
          cases only
          exact .inr ⟨rfl, [], name, rfl, based⟩
  | self plain missing =>
      obtain ⟨rfl, only⟩ := List.append_eq_singleton_iff.mp passed.symm |>.resolve_right (by simp)
      cases only
      exact .inl (.self plain missing)
  | @follow name answer names typedef plain found onward ih =>
      cases front with
      | nil =>
          cases passed
          exact .inl (.follow plain found onward)
      | cons head front =>
          obtain ⟨rfl, later⟩ := List.cons.inj passed
          rcases ih later with walk | ⟨last, earlier, before, rfl, based⟩
          · exact .inl walk
          · exact .inr ⟨last, name :: earlier, before, rfl, based⟩

/-- **A chain tells what resolution does.**  It begins with the name that is asked for and ends with what it resolves
to.  Each later name is the target of the typedef of the name before it, or, at the end only, the value of its row
in the base-type table.  If the walk stops by itself, every name of the chain resolves like the first, except for
a value of the base-type table at the end. -/
theorem chain_matches_resolve (registry : Registry) (name : String) :
    (registry.chain name).head? = some name ∧
    (registry.chain name).getLast? = some (registry.resolve name) ∧
    (∀ front met next rest, registry.chain name = front ++ met :: next :: rest →
      registry.baseType? met = some next ∧ rest = [] ∨
        registry.baseType? met = none ∧ ∃ typedef, registry.typedef? met = some typedef ∧
          typedef.target = next) ∧
    (registry.walkStops registry.walkBound name = true →
      ∀ front met rest, registry.chain name = front ++ met :: rest →
        registry.resolve met = registry.resolve name ∨
          rest = [] ∧ ∃ earlier before, front = earlier ++ [before] ∧
            registry.baseType? before = some met) := by
  refine ⟨registry.head?_chain name, getLast?_walkNames _ _, fun _ _ _ _ => row_between_walkNames, ?_⟩
  intro stops front met rest passed
  have walk := (stops_of_ends (ends_of_stops stops) le_rfl).2
  exact (walk.from_passed passed).imp_left Walk.resolve_eq

/-- A registry in which the value of a base type is the name of a typedef, and a typedef leads back to itself. -/
def handAssembled : Registry :=
  { (default : Registry) with
    typedefs := [⟨"Mask", "Flags"⟩, ⟨"Flags", "Bits"⟩, ⟨"uint", "int"⟩, ⟨"Loop", "Loop"⟩]
    baseTypes := [⟨"Bits", "uint"⟩] }

/-- The names that lead to a base type resolve alike, and its value resolves to another name.  A chain that is cut
ends with the answer too. -/
theorem chain_matches_resolve_in_handAssembled :
    handAssembled.walkStops handAssembled.walkBound "Mask" = true ∧
    handAssembled.chain "Mask" = ["Mask", "Flags", "Bits", "uint"] ∧
    handAssembled.resolve "Flags" = handAssembled.resolve "Mask" ∧
    handAssembled.resolve "uint" ≠ handAssembled.resolve "Mask" ∧
    handAssembled.walkStops handAssembled.walkBound "Loop" = false ∧
    (handAssembled.chain "Loop").getLast? = some (handAssembled.resolve "Loop") := by
  have stops : handAssembled.walkStops handAssembled.walkBound "Mask" = true := by decide +kernel
  have chain : handAssembled.chain "Mask" = ["Mask", "Flags", "Bits", "uint"] := by decide +kernel
  obtain ⟨-, -, -, alike⟩ := chain_matches_resolve handAssembled "Mask"
  obtain ⟨-, last, -⟩ := chain_matches_resolve handAssembled "Loop"
  have flags := (alike stops ["Mask"] "Flags" _ chain).resolve_right (by simp)
  exact ⟨stops, chain, flags, by decide +kernel, by decide +kernel, last⟩

end ApiBindings.Registry
