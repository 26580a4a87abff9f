import ApiBindings.Proofs.ConstantAliases
import ApiBindings.Proofs.DistinctEntities

/-!
# Names and their identifiers

A registry that was built keeps the names of a scope apart, and what is emitted declares their identifiers.  The
escape is not injective: a keyword and its escaped form have one identifier, and these are the only two names
that do (`identifier_eq_iff`).  So the identifiers of a scope are distinct exactly when no keyword stands in it
beside its escaped form (`escaped_scopes`).

The condition is not empty.  Nothing keeps a document from naming a constant `type` and another one `type_`, and
both are then declared under one identifier (`build_accepts_escape_clash`).
-/

namespace ApiBindings.Binding

set_option autoImplicit false

/-! ## Renaming -/

/-- A name with an underscore behind it if it is reserved, and as it is otherwise. -/
def renamed (reserved : String → Bool) (name : String) : String :=
  if reserved name then name ++ "_" else name

section Renaming

variable {reserved : String → Bool} (free : ∀ name, reserved (name ++ "_") = false)

include free

/-- Two names are renamed alike only if one of them is reserved and the other one is what it is renamed to. -/
theorem renamed_eq_iff {name other : String} :
    renamed reserved name = renamed reserved other ↔ name = other ∨
      (reserved name = true ∧ other = name ++ "_") ∨ (reserved other = true ∧ name = other ++ "_") := by
  constructor
  · intro same
    cases first : reserved name <;> cases second : reserved other <;>
      simp only [renamed, first, second, if_true, Bool.false_eq_true, if_false] at same
    · exact .inl same
    · exact .inr (.inr ⟨rfl, same⟩)
    · exact .inr (.inl ⟨rfl, same.symm⟩)
    · exact .inl (String.append_left_inj "_" |>.mp same)
  · rintro (rfl | ⟨here, rfl⟩ | ⟨here, rfl⟩)
    · rfl
    · simp only [renamed, here, free, if_true, Bool.false_eq_true, if_false]
    · simp only [renamed, here, free, if_true, Bool.false_eq_true, if_false]

/-- **Renaming keeps distinct names apart unless one of them is what another one is renamed to.** -/
theorem nodup_map_renamed_iff {names : List String} (distinct : names.Nodup) :
    (names.map (renamed reserved)).Nodup ↔
      ¬ ∃ name ∈ names, reserved name = true ∧ name ++ "_" ∈ names := by
  rw [List.nodup_map_iff_inj_on distinct]
  constructor
  · rintro apart ⟨name, mem, here, taken⟩
    have same := apart name mem _ taken ((renamed_eq_iff free).mpr (.inr (.inl ⟨here, rfl⟩)))
    -- A name is shorter than what it is renamed to.
    have lengths := congrArg String.length same
    simp at lengths
  · intro untaken name mem other otherMem same
    rcases (renamed_eq_iff free).mp same with same | ⟨here, rfl⟩ | ⟨here, rfl⟩
    · exact same
    · exact absurd ⟨name, mem, here, otherMem⟩ untaken
    · exact absurd ⟨other, otherMem, here, mem⟩ untaken

end Renaming

/-! ## Identifiers -/

theorem underscore_notMem_of_isKeyword {name : String} (keyword : isKeyword name = true) :
    '_' ∉ name.toList := by
  have all : ∀ word ∈ keywords, '_' ∉ word.toList := by decide
  exact all name (List.contains_iff_mem.mp keyword)

/-- The escaped form of a name is no keyword. -/
theorem isKeyword_append_underscore (name : String) : isKeyword (name ++ "_") = false := by
  by_contra escaped
  have missing := underscore_notMem_of_isKeyword (Bool.of_not_eq_false escaped)
  exact missing (by simp)

theorem identifier_of_keyword {name : String} (keyword : isKeyword name = true) :
    identifier name = name ++ "_" := by
  rw [identifier, if_pos keyword]

/-- Two names have one identifier only if one of them is the escaped form of the other, a keyword. -/
theorem identifier_eq_iff {name other : String} :
    identifier name = identifier other ↔ name = other ∨
      (isKeyword name = true ∧ other = name ++ "_") ∨ (isKeyword other = true ∧ name = other ++ "_") :=
  renamed_eq_iff isKeyword_append_underscore

/-! ## Scopes -/

/-- A keyword stands among the names beside its escaped form. -/
def EscapeClash (names : List String) : Prop := ∃ name ∈ names, isKeyword name = true ∧ name ++ "_" ∈ names

/-- The identifiers for names are distinct exactly when no keyword stands among the names beside its escaped
form. -/
def Escaped (names identifiers : List String) : Prop := identifiers.Nodup ↔ ¬ EscapeClash names

/-- **Escaping keeps distinct names apart unless one of them is the escaped form of another.** -/
theorem escaped_map_identifier {names : List String} (distinct : names.Nodup) :
    Escaped names (names.map identifier) :=
  nodup_map_renamed_iff isKeyword_append_underscore distinct

theorem escaped_of_map {α β : Type} {entities : List α} {declarations : List β} {nameOf : α → String}
    {declared : β → String} (distinct : (entities.map nameOf).Nodup)
    (identifiers : declarations.map declared = entities.map fun entity => identifier (nameOf entity)) :
    Escaped (entities.map nameOf) (declarations.map declared) := by
  rw [identifiers]
  have escaped := escaped_map_identifier distinct
  rwa [List.map_map] at escaped

variable (registry : Registry)

/-- The scopes of the emitted code: what is declared side by side, beside the names it is declared for. -/
structure EscapedScopes : Prop where
  constants : Escaped (registry.constants.map (·.name))
    ((constantDeclarations registry).map (·.name))
  values : List.Forall₂
    (fun enumeration declaration =>
      Escaped (enumeration.values.map (·.name)) (declaration.members.map (·.name)))
    registry.enums (enumDeclarations registry)
  unionFields : List.Forall₂
    (fun aggregate declaration =>
      Escaped (aggregate.members.map (·.name)) (declaration.fields.map (·.name)))
    registry.unions ((unionDeclarations registry).eval registry.resolve)
  pointerParams : List.Forall₂
    (fun pointer declaration => Escaped (pointer.params.map (·.name)) (declaration.params.map (·.name)))
    registry.funcPointers ((functionTypes registry).eval registry.resolve)
  commandParams : List.Forall₂
    (fun command signature => Escaped (command.params.map (·.name)) (signature.params.map (·.name)))
    (boundCommands registry) ((commandTable registry).eval registry.resolve).signatures
  enums : Escaped (registry.enums.map (·.name)) ((enumDeclarations registry).map (·.name))
  structs : Escaped (registry.structs.map (·.name))
    (((structDeclarations registry).eval registry.resolve).map (·.name))
  unions : Escaped (registry.unions.map (·.name))
    (((unionDeclarations registry).eval registry.resolve).map (·.name))
  handles : Escaped (registry.handles.map (·.name))
    ((handleDeclarations registry).map (·.name))
  funcPointers : Escaped (registry.funcPointers.map (·.name))
    (((functionTypes registry).eval registry.resolve).map (·.name))
  /-- The types of commands have names that are no keywords. -/
  commandTypes : (((commandTable registry).eval registry.resolve).signatures.map (·.name)).Nodup

variable {registry}

theorem map_name_constantDeclarations {document : Document} (sound : document.WellFormed) :
    (constantDeclarations document.registry).map (·.name) =
      document.registry.constants.map fun constant => identifier constant.name := by
  rw [constantDeclarations_eq_map sound, List.map_map]
  rfl

theorem map_name_unionFields (aggregate : Aggregate) :
    (unionDeclaration registry aggregate).fields.map (·.name) =
      aggregate.members.map fun m => identifier m.name := by
  rw [unionDeclaration_eq, declaredFields, List.map_flatMap]
  exact List.flatMap_pure_eq_map _ _

/-- An enumeration without values has one member, so nothing clashes in it. -/
theorem escaped_enumMembers {enumeration : Enumeration}
    (distinct : (enumeration.values.map (·.name)).Nodup) :
    Escaped (enumeration.values.map (·.name)) ((enumMembers enumeration).map (·.name)) := by
  rw [enumMembers]
  split
  · next none =>
      rw [List.isEmpty_iff.mp none]
      simp [Escaped, EscapeClash]
  · next some =>
      refine escaped_of_map distinct ?_
      rw [List.map_map]
      rfl

theorem escaped_declaredParams {params : List Param} (distinct : (params.map (·.name)).Nodup) :
    Escaped (params.map (·.name)) ((declaredParams registry params).map (·.name)) := by
  refine escaped_of_map distinct ?_
  rw [declaredParams, List.map_map]
  rfl

theorem signatureName_injective : Function.Injective signatureName := by
  intro name other same
  exact (String.append_left_inj "Fn").mp same

theorem nodup_signatureNames (distinct : (registry.commands.map (·.name)).Nodup) :
    (((commandTable registry).eval registry.resolve).signatures.map (·.name)).Nodup := by
  have names : ((commandTable registry).eval registry.resolve).signatures.map (·.name) =
      ((boundCommands registry).map (·.name)).map signatureName := by
    rw [eval_commandTable, List.map_map, List.map_map]
    exact List.map_congr_left fun command _ => congrArg SignatureType.name (eval_signatureType registry command)
  rw [names]
  have bound : ((boundCommands registry).map (·.name)).Sublist (registry.commands.map (·.name)) :=
    List.filter_sublist.map _
  exact (distinct.sublist bound).map signatureName_injective

/-- **In the code of a built registry identifiers clash only where a keyword meets its escaped form.**  This is so
of the constants, of the values of an enumeration, the fields of a union and the parameters of a function, and of
the types of each collection; the types of the commands never clash. -/
theorem escaped_scopes {document : Document} {registry : Registry}
    (built : document.build = .ok registry) : EscapedScopes registry := by
  have distinct := Document.distinct_of_build built
  obtain ⟨sound, rfl⟩ := Document.build_eq_ok_iff.mp built
  obtain ⟨-, unionMembers⟩ := List.forall_mem_append.mp distinct.members
  constructor
  case constants => exact escaped_of_map distinct.constants (map_name_constantDeclarations sound)
  case values =>
    rw [enumDeclarations, List.forall₂_map_right_iff, List.forall₂_same]
    exact fun enumeration mem => escaped_enumMembers (distinct.values enumeration mem)
  case unionFields =>
    rw [eval_unionDeclarations, List.forall₂_map_right_iff, List.forall₂_same]
    exact fun aggregate mem =>
      escaped_of_map (unionMembers aggregate mem) (map_name_unionFields aggregate)
  case pointerParams =>
    rw [eval_functionTypes, List.forall₂_map_right_iff, List.forall₂_same]
    exact fun pointer mem => escaped_declaredParams (distinct.pointerParams pointer mem)
  case commandParams =>
    rw [eval_commandTable, List.forall₂_map_right_iff, List.forall₂_same]
    intro command mem
    rw [eval_signatureType]
    exact escaped_declaredParams (distinct.commandParams command (List.mem_of_mem_filter mem))
  case enums => exact escaped_of_map distinct.enums (List.map_map ..)
  case structs =>
    rw [eval_structDeclarations]
    refine escaped_of_map distinct.structs ?_
    simp only [List.map_map, Function.comp_def, structDeclaration_eq]
  case unions =>
    rw [eval_unionDeclarations]
    refine escaped_of_map distinct.unions ?_
    simp only [List.map_map, Function.comp_def, unionDeclaration_eq]
  case handles => exact escaped_of_map distinct.handles (List.map_map ..)
  case funcPointers =>
    rw [eval_functionTypes]
    exact escaped_of_map distinct.funcPointers (List.map_map ..)
  case commandTypes => exact nodup_signatureNames distinct.commands

/-- Constants that are a keyword and its escaped form, and scopes with keywords that do not meet theirs. -/
def keywordNames : Document :=
  { Document.empty with
    constants := [⟨"type", some .u32, some "1", none⟩, ⟨"type_", some .u32, some "2", none⟩]
    enums := [⟨"match", .plain, none, [⟨"self", 0⟩, ⟨"Self", 1⟩]⟩, ⟨"None", .bitmask, none, []⟩]
    unions := [⟨"union", [⟨"ref", "float", 1⟩, ⟨"mut", "int", 2⟩]⟩]
    commands := [⟨"move", "void", [⟨"in", "int", ⟩, ⟨"in__", "int*"⟩], none⟩] }

theorem keywordNames_built : keywordNames.build = .ok keywordNames.registry :=
  Document.build_of_problems_eq_nil (by decide +kernel)

theorem escaped_scopes_of_keywordNames :
    keywordNames.build = .ok keywordNames.registry ∧ EscapedScopes keywordNames.registry :=
  ⟨keywordNames_built, escaped_scopes keywordNames_built⟩

/-- A build does not keep a keyword and its escaped form apart: both constants are declared under one name. -/
theorem build_accepts_escape_clash :
    ∃ document registry, Document.build document = .ok registry ∧
      ¬ ((constantDeclarations registry).map (·.name)).Nodup := by
  refine ⟨keywordNames, keywordNames.registry, keywordNames_built, ?_⟩
  have names : (constantDeclarations keywordNames.registry).map (·.name) = ["type_", "type_"] := by
    decide +kernel
  rw [names]
  decide

end ApiBindings.Binding
