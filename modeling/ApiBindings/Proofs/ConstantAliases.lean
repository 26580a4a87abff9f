import ApiBindings.Proofs.Declarations
import ApiBindings.Proofs.ExactRegistry

/-!
# Aliases among constants

An alias is written with the identifier of the constant it names as its value, and with the type of the constant
that holds the value at the end of its chain.  The two come about differently: the value takes one link of the
chain, the type all of them, at most one more than there are constants.

In a registry that was built both agree (`Binding.constants_transparent`).  The links from a constant lead to
the names of a trail, which are declared and distinct, so the bound is never met; and the constant at the end is
the same for an alias and for its target (`Registry.Holds`).
-/

namespace ApiBindings

set_option autoImplicit false

open Chain

namespace Registry

variable {registry : Registry}

/-- Where the value of a constant is held: in the constant itself, or where the target of the alias has it. -/
inductive Holds (registry : Registry) : Constant → Constant → Prop where
  | self {constant : Constant} : constant.aliasOf? = none → Holds registry constant constant
  | link {constant target holder : Constant} {name : String} :
      constant.aliasOf? = some name → registry.constant? name = some target →
      Holds registry target holder → Holds registry constant holder

theorem Holds.unique {constant holder other : Constant} (holds : registry.Holds constant holder)
    (otherHolds : registry.Holds constant other) : holder = other := by
  induction holds with
  | self plain =>
      cases otherHolds with
      | self => rfl
      | link aliased => rw [plain] at aliased; cases aliased
  | link aliased found _ ih =>
      cases otherHolds with
      | self plain => rw [plain] at aliased; cases aliased
      | link otherwise elsewhere holds =>
          obtain rfl := Option.some.inj (aliased.symm.trans otherwise)
          obtain rfl := Option.some.inj (found.symm.trans elsewhere)
          exact ih holds

theorem Holds.value {constant holder : Constant} (holds : registry.Holds constant holder) :
    ∃ type literal, holder.definition = .value type literal := by
  induction holds with
  | @self constant plain =>
      cases defined : constant.definition with
      | value type literal => exact ⟨type, literal, rfl⟩
      | synonym target => simp [Constant.aliasOf?, defined] at plain
  | link _ _ _ ih => exact ih

/-- Where a value is held it is held by the constant itself. -/
theorem Holds.held {constant holder : Constant} (holds : registry.Holds constant holder) :
    registry.Holds holder holder := by
  induction holds with
  | self plain => exact .self plain
  | link _ _ _ ih => exact ih

theorem Holds.mem {constant holder : Constant} (holds : registry.Holds constant holder)
    (mem : constant ∈ registry.constants) : holder ∈ registry.constants := by
  induction holds with
  | self => exact mem
  | link _ found _ ih => exact ih (mem_of_find?_name found).1

/-- Over a trail of declared names that is shorter than the bound, a walk finds where the value is held. -/
theorem aliasRootWithin_of_trail {start : Option String} {names : List String}
    (trail : Trail (fun name => (registry.constant? name).bind Constant.aliasOf?) start names)
    (declared : ∀ name ∈ names, (registry.constant? name).isSome) {constant : Constant}
    (begins : constant.aliasOf? = start) {links : Nat} (enough : names.length < links) :
    ∃ holder, registry.aliasRootWithin links constant = some holder ∧
      registry.Holds constant holder := by
  induction trail generalizing constant links with
  | done =>
      obtain ⟨links, rfl⟩ := Nat.exists_eq_succ_of_ne_zero (Nat.ne_of_gt enough)
      exact ⟨constant, by rw [aliasRootWithin, begins], .self begins⟩
  | @link name names _ ih =>
      obtain ⟨links, rfl⟩ := Nat.exists_eq_succ_of_ne_zero (Nat.ne_zero_of_lt enough)
      obtain ⟨here, later⟩ := List.forall_mem_cons.mp declared
      obtain ⟨target, found⟩ := Option.isSome_iff_exists.mp here
      have onward : target.aliasOf? = (registry.constant? name).bind Constant.aliasOf? := by
        rw [found, Option.bind_some]
      obtain ⟨holder, walked, holds⟩ := ih later onward (Nat.lt_of_succ_lt_succ enough)
      refine ⟨holder, ?_, .link begins found holds⟩
      simp only [aliasRootWithin, begins, found, Option.bind_some, walked]

/-- The type of a constant is the type of the value that it leads to. -/
theorem constantType?_of_aliasRoot? {constant holder : Constant} {type : ScalarType} {literal : String}
    (walked : registry.aliasRoot? constant = some holder) (held : holder.definition = .value type literal) :
    registry.constantType? constant = some type := by
  simp only [constantType?, walked, Option.bind_eq_bind, Option.bind_some, held]

end Registry

/-! ## Constants of a built registry -/

namespace Document.WellFormed

variable {document : Document}

theorem constant?_isSome_iff (sound : document.WellFormed) (name : String) :
    (document.registry.constant? name).isSome ↔ name ∈ document.names .constants := by
  rw [Registry.constant?, find?_name_isSome_iff, sound.exactLookups.constants.named]

theorem map_fst_constantLinks (document : Document) :
    document.constantLinks.map Prod.fst = document.names .constants := by
  rw [constantLinks, List.map_map]
  rfl

/-- The chain of a declared constant has a root. -/
theorem rooted_of_mem_names (sound : document.WellFormed) {name : String}
    (mem : name ∈ document.names .constants) : Rooted document.constantLinks name := by
  obtain ⟨row, rowMem, rfl⟩ := List.mem_map.mp mem
  have link : (row.name, row.aliasOf) ∈ document.constantLinks := List.mem_map.mpr ⟨row, rowMem, rfl⟩
  cases aliased : row.aliasOf with
  | none => exact .root (aliased ▸ link)
  | some target => exact .link (aliased ▸ link) (sound.references.constants row rowMem target aliased)

/-- From a declared name on, the names that aliases lead to are a trail of declared names. -/
theorem exists_alias_trail (sound : document.WellFormed) {start : Option String}
    (declared : ∀ name ∈ start, name ∈ document.names .constants) :
    ∃ names, Trail (fun name => (document.registry.constant? name).bind Constant.aliasOf?) start names ∧
      ∀ met ∈ names, met ∈ document.names .constants := by
  cases start with
  | none => exact ⟨[], .done, by simp⟩
  | some name =>
      have distinct := (sound.names .constants).distinct
      have follows := constant_aliasOf?_eq_some_iff distinct
      have rooted := sound.rooted_of_mem_names (declared name rfl)
      rw [← map_fst_constantLinks] at distinct ⊢
      exact exists_trail_of_rooted distinct follows rooted

/-- **With one link more than there are constants, a walk finds where the value of a constant is held.**  The
constant may be one that the registry does not have, as long as it has the one that the alias names. -/
theorem exists_aliasRootWithin (sound : document.WellFormed) {constant : Constant}
    (declared : ∀ name ∈ constant.aliasOf?, (document.registry.constant? name).isSome) {links : Nat}
    (enough : document.registry.constants.length < links) :
    ∃ holder, document.registry.aliasRootWithin links constant = some holder ∧
      document.registry.Holds constant holder := by
  obtain ⟨names, trail, known⟩ := sound.exists_alias_trail fun name aliased =>
    (sound.constant?_isSome_iff name).mp (declared name aliased)
  have short : names.length < links := by
    have fits := (List.subperm_of_subset trail.nodup known).length_le
    rw [← sound.exactLookups.constants.named, List.length_map] at fits
    omega
  refine Registry.aliasRootWithin_of_trail trail ?_ rfl short
  exact fun name met => (sound.constant?_isSome_iff name).mpr (known name met)

theorem isSome_of_aliasOf? (sound : document.WellFormed) {constant : Constant}
    (mem : constant ∈ document.registry.constants) :
    ∀ name ∈ constant.aliasOf?, (document.registry.constant? name).isSome := by
  intro name aliased
  obtain ⟨row, rowMem, entity⟩ := List.mem_filterMap.mp mem
  rw [(ConstantRow.entity?_eq_some entity).2] at aliased
  rw [sound.constant?_isSome_iff, ← map_fst_constantLinks]
  cases sound.references.constants row rowMem name aliased with
  | root link => exact List.mem_map_of_mem link
  | link link _ => exact List.mem_map_of_mem link

/-- **Within its bound the walk along the aliases of a constant finds where the value is held.** -/
theorem exists_aliasRoot? (sound : document.WellFormed) {constant : Constant}
    (mem : constant ∈ document.registry.constants) :
    ∃ holder, document.registry.aliasRoot? constant = some holder ∧
      document.registry.Holds constant holder :=
  sound.exists_aliasRootWithin (sound.isSome_of_aliasOf? mem) (Nat.lt_succ_self _)

theorem constantType?_eq_some (sound : document.WellFormed) {constant holder : Constant}
    (mem : constant ∈ document.registry.constants) (holds : document.registry.Holds constant holder)
    {type : ScalarType} {literal : String} (held : holder.definition = .value type literal) :
    document.registry.constantType? constant = some type := by
  obtain ⟨other, walked, same⟩ := sound.exists_aliasRoot? mem
  obtain rfl := holds.unique same
  exact Registry.constantType?_of_aliasRoot? walked held

end Document.WellFormed

/-! ## The emitted declarations -/

namespace Binding

theorem code_constants (registry : Registry) :
    code registry .constants = banner .constants ++ "\n\n" ++
      String.join ((constantDeclarations registry).map fun declaration => declaration.text ++ "\n") := by
  have lines := Script.writes_lines 0 ((constantDeclarations registry).map ConstantDeclaration.text)
  rw [Writer.linesText, List.map_map] at lines
  simp only [Function.comp_def, Writer.lineText_zero] at lines
  exact code_of_writes registry lines

/-- The declaration of a constant that leads to a value. -/
def declarationOf (registry : Registry) (constant : Constant) : ConstantDeclaration :=
  ⟨identifier constant.name, ((registry.constantType? constant).map ScalarType.spelling).getD "",
    definitionText constant.definition⟩

theorem declarationOf_type {registry : Registry} {constant : Constant} {type : ScalarType}
    (typed : registry.constantType? constant = some type) :
    (declarationOf registry constant).type = type.spelling := by
  rw [declarationOf, typed]
  rfl

/-- No constant of a built registry is left out. -/
theorem constantDeclaration?_eq_some {document : Document} (sound : document.WellFormed)
    {constant : Constant} (mem : constant ∈ document.registry.constants) :
    constantDeclaration? document.registry constant =
      some (declarationOf document.registry constant) := by
  obtain ⟨holder, -, holds⟩ := sound.exists_aliasRoot? mem
  obtain ⟨type, literal, held⟩ := holds.value
  have typed := sound.constantType?_eq_some mem holds held
  rw [constantDeclaration?, declarationOf, typed]
  rfl

theorem constantDeclarations_eq_map {document : Document} (sound : document.WellFormed) :
    constantDeclarations document.registry =
      document.registry.constants.map (declarationOf document.registry) := by
  rw [constantDeclarations, ← List.filterMap_eq_map]
  exact List.filterMap_congr fun constant mem => constantDeclaration?_eq_some sound mem

section Lines

variable {document : Document} (sound : document.WellFormed) {constant holder : Constant}
  (mem : constant ∈ document.registry.constants)

include sound mem

/-- A line has the type of the line on which the value is held. -/
theorem declarationOf_type_eq (holds : document.registry.Holds constant holder) :
    (declarationOf document.registry constant).type =
      (declarationOf document.registry holder).type := by
  obtain ⟨type, literal, held⟩ := holds.value
  have here := sound.constantType?_eq_some mem holds held
  have there := sound.constantType?_eq_some (holds.mem mem) holds.held held
  rw [declarationOf_type here, declarationOf_type there]

theorem declarationOf_synonym {name : String} (defined : constant.definition = .synonym name) :
    ∃ target ∈ document.registry.constants, target.name = name ∧
      (declarationOf document.registry constant).value =
        (declarationOf document.registry target).name ∧
      (declarationOf document.registry constant).type =
        (declarationOf document.registry target).type := by
  have aliased : constant.aliasOf? = some name := by rw [Constant.aliasOf?, defined]
  obtain ⟨holder, -, holds⟩ := sound.exists_aliasRoot? mem
  have type := declarationOf_type_eq sound mem holds
  -- The target leads to the same value, by one link less.
  cases holds with
  | self plain => rw [plain] at aliased; cases aliased
  | @link _ target _ _ named found holds =>
      obtain rfl := Option.some.inj (aliased.symm.trans named)
      obtain ⟨targetMem, rfl⟩ := mem_of_find?_name found
      refine ⟨target, targetMem, rfl, ?_, type.trans (declarationOf_type_eq sound targetMem holds).symm⟩
      rw [declarationOf, defined]
      rfl

end Lines

/-- **Aliases are transparent in the emitted constants.**  The artifact is its banner and one line for every
constant, in the order of the registry.  A line has the type of the line on which the value is held.  An alias
has for its value the identifier on the line of its target, and the type of that line. -/
theorem constants_transparent {document : Document} {registry : Registry}
    (built : document.build = .ok registry) :
    code registry .constants = banner .constants ++ "\n\n" ++ String.join
      (registry.constants.map fun constant => (declarationOf registry constant).text ++ "\n") ∧
    ∀ constant ∈ registry.constants,
      constantDeclaration? registry constant = some (declarationOf registry constant) ∧
      (∃ holder ∈ registry.constants, registry.Holds constant holder ∧
        (∃ type literal, holder.definition = .value type literal ∧
          (declarationOf registry holder).type = type.spelling ∧
          (declarationOf registry holder).value = Literal.normalize type literal) ∧
        (declarationOf registry constant).type = (declarationOf registry holder).type) ∧
      ∀ name, constant.definition = .synonym name →
        ∃ target ∈ registry.constants, target.name = name ∧
          (declarationOf registry constant).value = (declarationOf registry target).name ∧
          (declarationOf registry constant).type = (declarationOf registry target).type := by
  obtain ⟨sound, rfl⟩ := Document.build_eq_ok_iff.mp built
  constructor
  · rw [code_constants, constantDeclarations_eq_map sound, List.map_map]
    rfl
  · intro constant mem
    obtain ⟨holder, -, holds⟩ := sound.exists_aliasRoot? mem
    obtain ⟨type, literal, held⟩ := holds.value
    have typed := sound.constantType?_eq_some (holds.mem mem) holds.held held
    refine ⟨constantDeclaration?_eq_some sound mem, ⟨holder, holds.mem mem, holds,
      ⟨type, literal, held, declarationOf_type typed, ?_⟩, declarationOf_type_eq sound mem holds⟩, ?_⟩
    · rw [declarationOf, held]
      rfl
    · intro name defined
      exact declarationOf_synonym sound mem defined

/-- A chain of two aliases, one of them before its target and one named like a keyword. -/
def aliasChain : Document :=
  { Document.empty with
    constants := [⟨"SIZE_KHR", none, none, some "type"⟩, ⟨"SIZE", some .u64, some "(~0ULL)", none⟩,
      ⟨"type", some .f32, none, some "SIZE"⟩] }

theorem constants_transparent_in_aliasChain :
    aliasChain.build = .ok aliasChain.registry ∧
    code aliasChain.registry .constants = banner .constants ++ "\n\n" ++
      "pub const SIZE_KHR: u64 = type_;\npub const SIZE: u64 = !0;\npub const type_: u64 = SIZE;\n" ∧
    ∃ target ∈ aliasChain.registry.constants, target.name = "type" ∧
      (declarationOf aliasChain.registry ⟨"SIZE_KHR", .synonym "type"⟩).value =
        (declarationOf aliasChain.registry target).name ∧
      (declarationOf aliasChain.registry ⟨"SIZE_KHR", .synonym "type"⟩).type =
        (declarationOf aliasChain.registry target).type := by
  have built : aliasChain.build = .ok aliasChain.registry :=
    Document.build_of_problems_eq_nil (by decide +kernel)
  obtain ⟨text, lines⟩ := constants_transparent built
  obtain ⟨-, -, transparent⟩ := lines ⟨"SIZE_KHR", .synonym "type"⟩ (by decide)
  refine ⟨built, ?_, transparent "type" rfl⟩
  rw [text]
  congr 1
  decide +kernel

end Binding

end ApiBindings
