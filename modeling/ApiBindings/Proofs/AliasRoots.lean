import ApiBindings.Proofs.ConstantAliases

/-!
# Roots of constants

The root of a constant is the constant that holds its value, at the end of the chain of its aliases.  It is asked
for constants of the registry, and just as well for one that the registry does not have.

In a registry that was built one thing only leaves a constant without a root: it is an alias, and no constant has
the name that it is an alias of (`Registry.alias_root_exact`).  The bound of the walk plays no part in that, though
an alias from outside in front of a chain through all constants uses all of it.
-/

namespace ApiBindings

set_option autoImplicit false

theorem Constant.aliasOf?_eq_some_iff {constant : Constant} {name : String} :
    constant.aliasOf? = some name ↔ constant.definition = .synonym name := by
  cases defined : constant.definition <;> simp [aliasOf?, defined]

namespace Registry

variable {registry : Registry} {constant target : Constant}

theorem constant?_eq_none_iff {name : String} :
    registry.constant? name = none ↔ name ∉ registry.constants.map (·.name) := by
  rw [← Option.not_isSome_iff_eq_none, constant?, find?_name_isSome_iff]

/-- What a walk finds, whatever its bound, is where the value is held. -/
theorem holds_of_aliasRootWithin {links : Nat} {root : Constant}
    (walked : registry.aliasRootWithin links constant = some root) : registry.Holds constant root := by
  induction links generalizing constant with
  | zero => cases walked
  | succ links ih =>
      rw [aliasRootWithin] at walked
      cases aliased : constant.aliasOf? with
      | none =>
          rw [aliased] at walked
          cases walked
          exact .self aliased
      | some name =>
          rw [aliased] at walked
          obtain ⟨target, found, walked⟩ := Option.bind_eq_some_iff.mp walked
          exact .link aliased found (ih walked)

/-- An alias has its value where its target has it. -/
theorem holds_iff_of_target {name : String} (aliased : constant.aliasOf? = some name)
    (found : registry.constant? name = some target) (root : Constant) :
    registry.Holds constant root ↔ registry.Holds target root := by
  refine ⟨fun holds => ?_, .link aliased found⟩
  cases holds with
  | self plain => cases plain.symm.trans aliased
  | link otherwise elsewhere holds =>
      obtain rfl := Option.some.inj (aliased.symm.trans otherwise)
      obtain rfl := Option.some.inj (found.symm.trans elsewhere)
      exact holds

/-- The target of an alias that leads to a value is declared. -/
theorem Holds.isSome_of_aliasOf? {root : Constant} (holds : registry.Holds constant root) :
    ∀ name ∈ constant.aliasOf?, (registry.constant? name).isSome := by
  intro name aliased
  cases holds with
  | self plain => cases plain.symm.trans aliased
  | link otherwise found _ =>
      obtain rfl := Option.some.inj (aliased.symm.trans otherwise)
      rw [found]
      rfl

end Registry

namespace Document.WellFormed

variable {document : Document} (sound : document.WellFormed) {constant : Constant}

include sound

theorem constant?_of_mem (mem : constant ∈ document.registry.constants) :
    document.registry.constant? constant.name = some constant := by
  refine (find?_name_eq_some_iff ?_).mpr ⟨mem, rfl⟩
  rw [sound.exactLookups.constants.named]
  exact (sound.names .constants).distinct

/-- Beyond the number of constants a walk finds the root, if there is one. -/
theorem aliasRootWithin_eq_some_iff {links : Nat} (enough : document.registry.constants.length < links)
    (root : Constant) : document.registry.aliasRootWithin links constant = some root ↔
      document.registry.Holds constant root := by
  refine ⟨Registry.holds_of_aliasRootWithin, fun holds => ?_⟩
  obtain ⟨other, walked, same⟩ := sound.exists_aliasRootWithin holds.isSome_of_aliasOf? enough
  rw [walked, holds.unique same]

theorem aliasRoot?_eq_some_iff (root : Constant) : document.registry.aliasRoot? constant = some root ↔
    document.registry.Holds constant root :=
  sound.aliasRootWithin_eq_some_iff (Nat.lt_succ_self _) root

/-- A constant has no root exactly if it is an alias of a name that is not declared. -/
theorem aliasRoot?_eq_none_iff : document.registry.aliasRoot? constant = none ↔
    ∃ name, constant.aliasOf? = some name ∧ document.registry.constant? name = none := by
  constructor
  · intro rootless
    by_contra named
    have declared : ∀ name ∈ constant.aliasOf?, (document.registry.constant? name).isSome := by
      intro name aliased
      refine Option.isSome_iff_ne_none.mpr fun missing => ?_
      exact named ⟨name, aliased, missing⟩
    obtain ⟨root, -, holds⟩ := sound.exists_aliasRootWithin declared (Nat.lt_succ_self _)
    cases rootless.symm.trans ((sound.aliasRoot?_eq_some_iff root).mpr holds)
  · rintro ⟨name, aliased, missing⟩
    refine Option.eq_none_iff_forall_ne_some.mpr fun root walked => ?_
    have declared := ((sound.aliasRoot?_eq_some_iff root).mp walked).isSome_of_aliasOf? name aliased
    rw [missing] at declared
    cases declared

end Document.WellFormed

namespace Registry

/-- **A constant has a root unless it is an alias of a name that no constant has.**  The root holds a value: it is
the constant itself, or the root of the constant that the alias names.  It is where the links lead to without a
bound, and a walk with a larger bound ends alike.  The type of a constant is known exactly if its root is. -/
theorem alias_root_exact {document : Document} {registry : Registry}
    (built : document.build = .ok registry) (constant : Constant) :
    (registry.aliasRoot? constant = none ↔
      ∃ name, constant.definition = .synonym name ∧ name ∉ registry.constants.map (·.name)) ∧
    (∀ root, registry.aliasRoot? constant = some root ↔ registry.Holds constant root) ∧
    (∀ root, registry.aliasRoot? constant = some root → ∃ type literal,
      root.definition = .value type literal ∧ registry.constantType? constant = some type) ∧
    (∀ type literal, constant.definition = .value type literal →
      registry.aliasRoot? constant = some constant) ∧
    (∀ target ∈ registry.constants, constant.definition = .synonym target.name →
      registry.aliasRoot? constant = registry.aliasRoot? target) ∧
    (∀ links, registry.constants.length < links →
      registry.aliasRootWithin links constant = registry.aliasRoot? constant) ∧
    ((registry.constantType? constant).isSome ↔ (registry.aliasRoot? constant).isSome) := by
  obtain ⟨sound, rfl⟩ := Document.build_eq_ok_iff.mp built
  have typed : ∀ root, document.registry.aliasRoot? constant = some root → ∃ type literal,
      root.definition = .value type literal ∧ document.registry.constantType? constant = some type := by
    intro root walked
    obtain ⟨type, literal, held⟩ := (holds_of_aliasRootWithin walked).value
    exact ⟨type, literal, held, constantType?_of_aliasRoot? walked held⟩
  refine ⟨?_, sound.aliasRoot?_eq_some_iff, typed, ?_, ?_, ?_, ?_⟩
  · simp only [sound.aliasRoot?_eq_none_iff, Constant.aliasOf?_eq_some_iff, constant?_eq_none_iff]
  · intro type literal defined
    exact (sound.aliasRoot?_eq_some_iff constant).mpr (.self (by rw [Constant.aliasOf?, defined]))
  · intro target mem defined
    have aliased := Constant.aliasOf?_eq_some_iff.mpr defined
    refine Option.ext fun root => ?_
    rw [sound.aliasRoot?_eq_some_iff, sound.aliasRoot?_eq_some_iff,
      holds_iff_of_target aliased (sound.constant?_of_mem mem)]
  · intro links enough
    refine Option.ext fun root => ?_
    rw [sound.aliasRootWithin_eq_some_iff enough, sound.aliasRoot?_eq_some_iff]
  · cases walked : document.registry.aliasRoot? constant with
    | none => rw [constantType?, walked]; rfl
    | some root =>
        obtain ⟨type, literal, -, known⟩ := typed root walked
        rw [known]
        rfl

/-- A chain through all constants, the last of which holds the value. -/
def descendingChain : Document :=
  { Document.empty with
    constants := [⟨"THREE", none, none, some "TWO"⟩, ⟨"TWO", none, none, some "ONE"⟩,
      ⟨"ONE", some .u32, some "1", none⟩] }

/-- From outside a chain through all constants has a root, which is as far as the bound allows. -/
theorem alias_root_in_descendingChain :
    descendingChain.build = .ok descendingChain.registry ∧
    descendingChain.registry.aliasRoot? ⟨"MADE_UP", .synonym "THREE"⟩ = some ⟨"ONE", .value .u32 "1"⟩ ∧
    descendingChain.registry.aliasRootWithin 3 ⟨"MADE_UP", .synonym "THREE"⟩ = none ∧
    descendingChain.registry.aliasRoot? ⟨"MADE_UP", .synonym "FOUR"⟩ = none := by
  have built : descendingChain.build = .ok descendingChain.registry :=
    Document.build_of_problems_eq_nil (by decide +kernel)
  obtain ⟨-, found, -⟩ := alias_root_exact built ⟨"MADE_UP", .synonym "THREE"⟩
  obtain ⟨missing, -⟩ := alias_root_exact built ⟨"MADE_UP", .synonym "FOUR"⟩
  refine ⟨built, (found _).mpr ?_, by decide +kernel, missing.mpr ⟨"FOUR", rfl, by decide +kernel⟩⟩
  exact .link rfl rfl (.link rfl rfl (.link rfl rfl (.self rfl)))

end Registry

end ApiBindings
