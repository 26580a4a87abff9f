import ApiBindings.Proofs.RecordLayout
import ApiBindings.Proofs.ScriptText
import ApiBindings.Proofs.StructFields

/-!
# The layout of flattened structs

The code of a struct has one line for each element of each member (`structText`), where C has one member for each
array.  Whatever the sizes and the alignments of the emitted types are, the two have the same layout: every
element lies where it lies in the array, and size and alignment are the same (`structs_keep_layout`).
-/

namespace ApiBindings.Binding

set_option autoImplicit false

open Layout Script Writer

variable (registry : Registry)

/-! ## Code -/

/-- The line of the field for an element. -/
def elementLine (entry : Member × Nat) : String :=
  "pub " ++ fieldName entry.1 entry.2 ++ ": " ++ typeText registry entry.1.type ++ ","

/-- The code of a struct. -/
def structText (aggregate : Aggregate) : String :=
  lineText 0 "#[repr(C)]" ++ lineText 0 "#[derive(Clone, Copy)]" ++
    lineText 0 ("pub struct " ++ identifier aggregate.name ++ " \x7b") ++
    linesText 1 (aggregate.elements.map (elementLine registry)) ++
    lineText 0 "\x7d"

variable {registry}

theorem map_text_fields {aggregate : Aggregate} (counts : ∀ m ∈ aggregate.members, 1 ≤ m.count) :
    (structDeclaration registry aggregate).fields.map FieldDeclaration.text =
      aggregate.elements.map (elementLine registry) := by
  rw [fields_structDeclaration counts, List.map_map]
  refine List.map_congr_left fun entry _ => ?_
  rw [Function.comp_apply, FieldDeclaration.text, elementLine]

theorem writes_structDeclaration {aggregate : Aggregate} (counts : ∀ m ∈ aggregate.members, 1 ≤ m.count) :
    Writes 0 (structDeclaration registry aggregate).script (structText registry aggregate) := by
  have attributes := (writes_line 0 "#[repr(C)]").append (writes_line 0 "#[derive(Clone, Copy)]")
  have fields := writes_lines 1 (aggregate.elements.map (elementLine registry))
  have block := writes_block fields ("pub struct " ++ identifier aggregate.name ++ " \x7b") "\x7d"
  rw [AggregateDeclaration.script, map_text_fields counts, structDeclaration_eq]
  have both := attributes.append block
  rw [← String.append_assoc, ← String.append_assoc] at both
  exact both

theorem code_structs (counts : ∀ aggregate ∈ registry.structs, ∀ m ∈ aggregate.members, 1 ≤ m.count) :
    code registry .structs =
      banner .structs ++ "\n\n" ++ "\n".intercalate (registry.structs.map (structText registry)) := by
  refine code_of_writes registry ?_
  rw [bodyScript, Resolving.eval_bind, Resolving.eval_pure, eval_structDeclarations]
  refine writes_separated ?_
  rw [List.forall₂_map_left_iff, List.forall₂_map_left_iff, List.forall₂_map_right_iff, List.forall₂_same]
  exact fun aggregate mem => writes_structDeclaration (counts aggregate mem)

/-! ## Layout -/

variable (registry) (measure : String → Extent)

/-- The extent of an element of a member. -/
def elementExtent (m : Member) : Extent := measure (typeText registry m.type)

/-- The extents of the fields in the code of a struct. -/
def emittedExtents (aggregate : Aggregate) : List Extent :=
  (structDeclaration registry aggregate).fields.map fun field => measure field.type

/-- The extents of a struct's members in C, arrays among them. -/
def nativeExtents (aggregate : Aggregate) : List Extent :=
  aggregate.members.map fun m => (elementExtent registry measure m).array m.count

/-- The fields of a struct lie where C has its members and their elements. -/
structure KeepsLayout (aggregate : Aggregate) : Prop where
  /-- A member has an offset in C, and its elements lie at this offset, each behind the elements before it. -/
  places : ∀ (index : Nat) (m : Member), aggregate.members[index]? = some m →
    ∃ offset, (offsets (nativeExtents registry measure aggregate))[index]? = some offset ∧
      ∀ element < m.count, aggregate.elements[aggregate.position index element]? = some (m, element) ∧
        (offsets (emittedExtents registry measure aggregate))[aggregate.position index element]? =
          some (offset + element * (measure (typeText registry m.type)).size)
  size : size (emittedExtents registry measure aggregate) = size (nativeExtents registry measure aggregate)
  alignment : alignment (emittedExtents registry measure aggregate) =
    alignment (nativeExtents registry measure aggregate)

variable {registry measure}

theorem emittedExtents_eq {aggregate : Aggregate} (counts : ∀ m ∈ aggregate.members, 1 ≤ m.count) :
    emittedExtents registry measure aggregate =
      elementFields (elementExtent registry measure) Member.count aggregate.members := by
  rw [emittedExtents, fields_structDeclaration counts, List.map_map, Aggregate.elements, List.map_flatMap]
  refine List.flatMap_congr fun m _ => ?_
  rw [List.map_map, List.eq_replicate_iff]
  constructor
  · rw [List.length_map, List.length_range]
  · intro extent mem
    obtain ⟨element, -, same⟩ := List.mem_map.mp mem
    rw [← same, Function.comp_apply, Function.comp_apply, elementExtent]

theorem keepsLayout {aggregate : Aggregate} (counts : ∀ m ∈ aggregate.members, 1 ≤ m.count) :
    KeepsLayout registry measure aggregate := by
  have extents : emittedExtents registry measure aggregate =
      elementFields (elementExtent registry measure) Member.count aggregate.members :=
    emittedExtents_eq counts
  constructor
  case places =>
    intro index m here
    obtain ⟨offset, there, inner⟩ :=
      exists_getElem?_offsetsFrom (elementExtent registry measure) Member.count counts 0 here
    refine ⟨offset, there, fun element inside => ⟨Aggregate.getElem?_elements here inside, ?_⟩⟩
    rw [extents]
    exact inner element inside
  case size =>
    rw [extents]
    exact size_elementFields (elementExtent registry measure) Member.count counts
  case alignment =>
    rw [extents]
    exact alignment_elementFields (elementExtent registry measure) Member.count counts

/-- **A struct has one line for each element of each member, and its layout is that of C.**  The lines come in the
order of the members and of the elements in a member, all elements of a member with its type.  This keeps the
layout of the struct that C declares, whatever the sizes and the alignments of the types are. -/
theorem structs_keep_layout {document : Document} {registry : Registry}
    (built : document.build = .ok registry) :
    code registry .structs =
      banner .structs ++ "\n\n" ++ "\n".intercalate (registry.structs.map (structText registry)) ∧
    ∀ aggregate ∈ registry.structs,
      ((structDeclaration registry aggregate).fields = aggregate.elements.map fun entry =>
        ⟨fieldName entry.1 entry.2, typeText registry entry.1.type⟩) ∧
      ∀ measure : String → Extent, KeepsLayout registry measure aggregate := by
  have sound := Document.distinct_of_build built
  have counts : ∀ aggregate ∈ registry.structs, ∀ m ∈ aggregate.members, 1 ≤ m.count :=
    fun aggregate mem => sound.counts aggregate (List.mem_append_left _ mem)
  refine ⟨code_structs counts, fun aggregate mem => ?_⟩
  have positive := counts aggregate mem
  exact ⟨fields_structDeclaration positive, fun _ => keepsLayout positive⟩

/-- A struct in which padding stands before an array and behind the last member. -/
def paddedStruct : Aggregate := ⟨"Block", [⟨"tag", "uint8_t", 3⟩, ⟨"weights", "Weight", 2⟩, ⟨"end", "char", 1⟩]⟩

/-- A document of this struct, with a typedef for one of its types. -/
def paddedDocument : Document :=
  { Document.empty with
    typedefs := [⟨"Weight", "double"⟩]
    structs := [⟨"Block", [⟨"tag", "uint8_t", 3⟩, ⟨"weights", "Weight", 2⟩, ⟨"end", "char", 1⟩]⟩] }

theorem paddedDocument_built : paddedDocument.build = .ok paddedDocument.registry :=
  Document.build_of_problems_eq_nil (by decide +kernel)

/-- Eight bytes for `f64`, one for all other types. -/
def doubleOrByte (type : String) : Extent :=
  if type == "f64" then ⟨8, 8, by decide, Nat.dvd_refl 8⟩ else ⟨1, 1, by decide, Nat.dvd_refl 1⟩

theorem structs_keep_layout_in_paddedStruct :
    let emitted := emittedExtents paddedDocument.registry doubleOrByte paddedStruct
    paddedDocument.build = .ok paddedDocument.registry ∧ paddedStruct ∈ paddedDocument.registry.structs ∧
      (offsets emitted)[4]? = some 16 ∧ size emitted = 32 ∧ alignment emitted = 8 := by
  intro emitted
  have mem : paddedStruct ∈ paddedDocument.registry.structs := by decide
  obtain ⟨-, layout⟩ := structs_keep_layout paddedDocument_built
  obtain ⟨-, layout⟩ := layout paddedStruct mem
  obtain ⟨places, sizes, alignments⟩ := layout doubleOrByte
  obtain ⟨offset, there, inner⟩ := places 1 ⟨"weights", "Weight", 2⟩ rfl
  have native : (offsets (nativeExtents paddedDocument.registry doubleOrByte paddedStruct))[1]? = some 8 ∧
      size (nativeExtents paddedDocument.registry doubleOrByte paddedStruct) = 32 ∧
      alignment (nativeExtents paddedDocument.registry doubleOrByte paddedStruct) = 8 := by
    decide +kernel
  have weight : (doubleOrByte (typeText paddedDocument.registry
      (⟨"weights", "Weight", 2⟩ : Member).type)).size = 8 := by decide +kernel
  obtain ⟨second, whole, largest⟩ := native
  obtain rfl : 8 = offset := Option.some.inj (second.symm.trans there)
  obtain ⟨-, lies⟩ := inner 1 (by decide)
  rw [weight] at lies
  exact ⟨paddedDocument_built, mem, lies, sizes.trans whole, alignments.trans largest⟩

end ApiBindings.Binding
