import ApiBindings.Proofs.Declarations
import ApiBindings.Proofs.ExpansionBound
import ApiBindings.Proofs.SpellingLayout
import ApiBindings.Proofs.TransparentTypedefs

/-!
# Canonical spellings

The canonical spelling of a type has one space between two words and none at a star, and says `const` once for
every level that is qualified.  Reading it gives back what it was made from, since it is the text of a spaced
layout (`parse_canonicalSpelling`).

What a spelling is emitted as is put together from its parts.  Expansion touches the named type alone, and the
pointer levels that are written ride along on the outside, whatever the named type leads to and wherever the
expansion is cut (`eval_expandWithin_append`).  So a canonical spelling is emitted as its named type under its
pointer levels, and a named type without a row under the identifier of the entity that is declared by that name
(`canonical_spelling_compositional`).
-/

namespace ApiBindings.Types

set_option autoImplicit false

open ApiBindings.Text Registry

/-! ## Spellings and their layouts -/

/-- The named type of a canonical spelling. -/
def canonicalName (name : TypeName) (tagged behind isConst : Bool) : String :=
  (if isConst && !behind then "const " else "") ++ (if tagged then "struct " else "") ++ name.text
    ++ (if isConst && behind then " const" else "")

/-- A star of a canonical spelling with what stands behind it. -/
def canonicalStar (isConst : Bool) : String := if isConst then "* const" else "*"

/-- **The canonical spelling of a type**: `flags` says for each star whether `const` stands in front of it, and
`last` whether it stands at the end.  The `const` of the named type stands in front of it or `behind` it. -/
def canonicalSpelling (name : TypeName) (tagged behind : Bool) (flags : List Bool) (last : Bool) : String :=
  canonicalName name tagged behind (flags.headD last) ++
    String.join ((flags ++ [last]).tail.map canonicalStar)

/-- A single space. -/
def Gap.space : Gap := ⟨.space, List.cons_ne_nil _ _⟩

/-- The layout of the named type of a canonical spelling. -/
def NamedLayout.canonical (name : TypeName) (tagged behind isConst : Bool) : NamedLayout where
  front := .none
  before := if isConst && !behind then [.space] else []
  tag := if tagged then some .space else none
  name := name
  after := if isConst && behind then [.space] else []
  back := .none

/-- The layout of what stands behind a star of a canonical spelling. -/
def StarLayout.canonical (isConst : Bool) : StarLayout :=
  if isConst then .const Gap.space.toBlanks [] .none else .plain .none

/-- The layout of a canonical spelling. -/
def Layout.canonical (name : TypeName) (tagged behind : Bool) (flags : List Bool) (last : Bool) : Layout :=
  ⟨.canonical name tagged behind (flags.headD last), (flags ++ [last]).tail.map .canonical⟩

section Canonical

variable (name : TypeName) (tagged behind isConst last : Bool) (flags : List Bool)

theorem NamedLayout.text_canonical : (canonical name tagged behind isConst).text =
    (canonicalName name tagged behind isConst).toList := by
  cases tagged <;> cases behind <;> cases isConst <;>
    simp [canonical, text, core, unqualified, canonicalName, constsBefore, constsAfter, tagText, constWord,
      structWord, Gap.space]

theorem NamedLayout.isConst_canonical : (canonical name tagged behind isConst).isConst = isConst := by
  cases behind <;> cases isConst <;> rfl

theorem NamedLayout.spaced_canonical : (canonical name tagged behind isConst).Spaced := by
  constructor
  · constructor <;> cases behind <;> cases isConst <;> simp [canonical, Gap.space]
  · cases tagged <;> simp [canonical, Gap.space]

theorem StarLayout.text_canonical : '*' :: (canonical isConst).text = (canonicalStar isConst).toList := by
  cases isConst <;> simp [canonical, text, canonicalStar, constsAfter, constWord, Gap.space]

theorem StarLayout.isConst_canonical : (canonical isConst).isConst = isConst := by
  cases isConst <;> rfl

theorem StarLayout.map_isConst_canonical : (flags.map canonical).map StarLayout.isConst = flags := by
  rw [List.map_map]
  exact List.map_id'' (fun isConst => isConst_canonical isConst) flags

theorem Layout.spelling_canonical :
    (canonical name tagged behind flags last).spelling =
      canonicalSpelling name tagged behind flags last := by
  have stars : ((flags ++ [last]).tail.map StarLayout.canonical).flatMap (fun star => '*' :: star.text) =
      (String.join ((flags ++ [last]).tail.map canonicalStar)).toList := by
    rw [String.toList_join, List.flatMap_map, List.flatMap_map]
    exact congrArg (List.flatMap · _) (funext StarLayout.text_canonical)
  rw [Layout.spelling, Layout.text, canonical, NamedLayout.text_canonical, stars, ← String.toList_append,
    String.ofList_toList]
  rfl

theorem Layout.levels_canonical : (canonical name tagged behind flags last).levels = flags := by
  rw [levels, qualifiers, canonical, NamedLayout.isConst_canonical, StarLayout.map_isConst_canonical]
  cases flags with
  | nil => rfl
  | cons first flags =>
      show ((first :: flags) ++ [last]).dropLast = first :: flags
      exact List.dropLast_concat

/-- **Reading a canonical spelling gives back the named type and the flags.** -/
theorem parse_canonicalSpelling :
    Spelling.parse (canonicalSpelling name tagged behind flags last) = ⟨name.text, flags⟩ := by
  have spaced : (Layout.canonical name tagged behind flags last).named.Spaced :=
    NamedLayout.spaced_canonical name tagged behind _
  rw [← Layout.spelling_canonical, Layout.parse_of_spaced _ spaced, Layout.levels_canonical]
  rfl

end Canonical

/-- The canonical spelling of a pointer that is itself `const`, to a pointer to a `const struct`. -/
example : canonicalSpelling ⟨"Extent", by decide +kernel, by decide⟩ true false [true, false] true =
    "const struct Extent** const" := by
  decide +kernel

/-! ## Levels that are written -/

/-- **Written pointer levels ride along on the outside**, for whatever the names resolve to and wherever the
expansion is cut. -/
theorem eval_expandWithin_append (resolve : String → String) (steps : Nat) (base : String)
    (inner outer : List Bool) :
    ((⟨base, inner ++ outer⟩ : Spelling).expandWithin steps).eval resolve =
      ⟨(((⟨base, inner⟩ : Spelling).expandWithin steps).eval resolve).base,
        (((⟨base, inner⟩ : Spelling).expandWithin steps).eval resolve).levels ++ outer⟩ := by
  induction steps generalizing base inner with
  | zero => rfl
  | succ steps ih =>
      rw [eval_expandWithin_succ, eval_expandWithin_succ]
      by_cases same : (Spelling.parse (resolve base)).base = base
      · simp only [if_pos same, List.append_assoc]
      · simp only [if_neg same, ← List.append_assoc]
        exact ih _ _

variable {registry : Registry} {name : TypeName} {spelling : String} {flags : List Bool}

/-- What reads as pointers to a named type is expanded to pointers to what the named type is expanded to. -/
theorem expanded_of_parse (read : Spelling.parse spelling = ⟨name.text, flags⟩) :
    registry.expanded spelling =
      ⟨(registry.expanded name.text).base, (registry.expanded name.text).levels ++ flags⟩ := by
  rw [expanded, expanded, expand, expand, read, name.bare.parse]
  exact eval_expandWithin_append registry.resolve _ name.text [] flags

/-- Pointers are emitted around what the named type is emitted as. -/
theorem emittedType_of_parse (read : Spelling.parse spelling = ⟨name.text, flags⟩) :
    (emittedType registry spelling).eval registry.resolve =
      flags.foldl (fun type pointeeIsConst => pointerTo pointeeIsConst type)
        ((emittedType registry name.text).eval registry.resolve) := by
  rw [eval_emittedType, eval_emittedType, ← expanded, ← expanded, expanded_of_parse read, Spelling.emitted,
    List.foldl_append, Spelling.emitted]

/-- Pointers are types of values. -/
theorem isVoid_of_parse (read : Spelling.parse spelling = ⟨name.text, flags⟩) :
    (isVoid registry spelling).eval registry.resolve = true ↔
      flags = [] ∧ (isVoid registry name.text).eval registry.resolve = true := by
  rw [eval_isVoid, eval_isVoid, ← expanded, ← expanded, expanded_of_parse read]
  simp only [Spelling.isVoid, Bool.and_eq_true, List.isEmpty_iff, List.append_eq_nil_iff]
  rw [and_assoc, and_left_comm]

/-! ## Declared types -/

theorem isPrimitive_of_scalarSpelling? {scalar text : String} (spelled : scalarSpelling? scalar = some text) :
    isPrimitive scalar = true := by
  unfold scalarSpelling? at spelled
  split at spelled
  all_goals first | rfl | cases spelled

/-- A named type that has no row and is no native scalar is emitted as its identifier. -/
theorem emittedType_of_rowless (plain : registry.baseType? name.text = none)
    (missing : registry.typedef? name.text = none) (foreign : isPrimitive name.text = false) :
    (emittedType registry name.text).eval registry.resolve = Binding.identifier name.text := by
  have settled : registry.Settled (Spelling.parse name.text).base := by
    rw [name.bare.parse]
    exact settled_of_rowless name.bare (rowOf?_eq_none_iff.mpr ⟨plain, missing⟩)
  have unspelled : scalarSpelling? name.text = none := by
    cases spelled : scalarSpelling? name.text with
    | none => rfl
    | some text =>
        rw [isPrimitive_of_scalarSpelling? spelled] at foreign
        cases foreign
  have kept : registry.expanded name.text = ⟨name.text, []⟩ :=
    (Settled.eval_expandWithin settled (expansionBound registry)).trans name.bare.parse
  rw [eval_emittedType, ← expanded, kept, Spelling.emitted, List.foldl_nil, namedType, unspelled,
    Option.getD_none]

open Binding in
/-- The types that the code of a registry declares: the name of each entity with the identifier of its
declaration. -/
def declaredTypes (registry : Registry) : List (String × String) :=
  (registry.enums.map (·.name)).zip ((enumDeclarations registry).map (·.name)) ++
    (registry.structs.map (·.name)).zip
      (((structDeclarations registry).eval registry.resolve).map (·.name)) ++
    (registry.unions.map (·.name)).zip
      (((unionDeclarations registry).eval registry.resolve).map (·.name)) ++
    (registry.handles.map (·.name)).zip ((handleDeclarations registry).map (·.name)) ++
    (registry.funcPointers.map (·.name)).zip (((functionTypes registry).eval registry.resolve).map (·.name))

open Binding in
theorem declaredTypes_eq (registry : Registry) : declaredTypes registry =
    (registry.enums.map (·.name) ++ registry.structs.map (·.name) ++ registry.unions.map (·.name) ++
      registry.handles.map (·.name) ++ registry.funcPointers.map (·.name)).map
        fun name => (name, identifier name) := by
  rw [declaredTypes, eval_structDeclarations, eval_unionDeclarations, eval_functionTypes]
  simp only [enumDeclarations, enumDeclaration, handleDeclarations, handleDeclaration, structDeclaration_eq,
    unionDeclaration_eq, List.map_append, List.map_map, Function.comp_def, List.zip_map', List.append_assoc]

/-- A type is declared under the identifier of its name. -/
theorem eq_identifier_of_mem_declaredTypes {declared : String × String}
    (mem : declared ∈ declaredTypes registry) : declared.2 = Binding.identifier declared.1 := by
  rw [declaredTypes_eq] at mem
  obtain ⟨name, -, rfl⟩ := List.mem_map.mp mem
  rfl

/-! ## Compositional spellings -/

/-- **Canonical spellings are read back, and are emitted level by level.**  The named type is emitted under the
pointer levels, the first flag innermost, and only a named type without pointer levels can be no type of a value.
A named type without a row that is no native scalar is emitted as the identifier that an entity of that name is
declared under. -/
theorem canonical_spelling_compositional (registry : Registry) (name : TypeName) (tagged behind : Bool)
    (flags : List Bool) (last : Bool) :
    Spelling.parse (canonicalSpelling name tagged behind flags last) = ⟨name.text, flags⟩ ∧
    (emittedType registry (canonicalSpelling name tagged behind flags last)).eval registry.resolve =
      flags.foldl (fun type pointeeIsConst => pointerTo pointeeIsConst type)
        ((emittedType registry name.text).eval registry.resolve) ∧
    ((isVoid registry (canonicalSpelling name tagged behind flags last)).eval registry.resolve = true ↔
      flags = [] ∧ (isVoid registry name.text).eval registry.resolve = true) ∧
    (registry.typedef? name.text = none → registry.baseType? name.text = none →
      isPrimitive name.text = false →
      (emittedType registry name.text).eval registry.resolve = Binding.identifier name.text ∧
      ∀ declared ∈ declaredTypes registry, declared.1 = name.text →
        declared.2 = (emittedType registry name.text).eval registry.resolve) := by
  have read := parse_canonicalSpelling name tagged behind last flags
  refine ⟨read, emittedType_of_parse read, isVoid_of_parse read, fun missing plain foreign => ?_⟩
  have emitted := emittedType_of_rowless plain missing foreign
  refine ⟨emitted, fun declared mem named => ?_⟩
  rw [eq_identifier_of_mem_declaredTypes mem, named, emitted]

/-- A struct whose name is a keyword, beside a typedef of pointers and a base type. -/
def keywordStruct : Registry :=
  { Document.empty.registry with
    structs := [⟨"type", [⟨"next", "struct type*", 1⟩]⟩]
    typedefs := [⟨"TypePtr", "const struct type*"⟩]
    baseTypes := [⟨"Flags", "uint32_t"⟩] }

/-- The name of the struct. -/
def keywordName : TypeName := ⟨"type", by decide +kernel, by decide⟩

theorem canonical_spelling_in_keywordStruct :
    keywordStruct.typedef? keywordName.text = none ∧ keywordStruct.baseType? keywordName.text = none ∧
    isPrimitive keywordName.text = false ∧ ("type", "type_") ∈ declaredTypes keywordStruct ∧
    (emittedType keywordStruct "type").eval keywordStruct.resolve = "type_" ∧
    (emittedType keywordStruct "const struct type** const").eval keywordStruct.resolve =
      "*mut *const type_" := by
  have mem : ("type", "type_") ∈ declaredTypes keywordStruct := by decide +kernel
  obtain ⟨-, emitted, -, declared⟩ :=
    canonical_spelling_compositional keywordStruct keywordName true false [true, false] true
  obtain ⟨-, under⟩ := declared (by decide) (by decide) (by decide)
  have named := under _ mem rfl
  have spelled : canonicalSpelling keywordName true false [true, false] true =
      "const struct type** const" := by decide +kernel
  refine ⟨by decide, by decide, by decide, mem, named.symm, ?_⟩
  rw [spelled, ← named] at emitted
  rw [emitted]
  decide +kernel

end ApiBindings.Types
