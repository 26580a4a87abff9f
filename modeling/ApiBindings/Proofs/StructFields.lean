import Mathlib.Algebra.BigOperators.Group.List.Basic
import Mathlib.Algebra.GroupWithZero.Nat
import ApiBindings.Proofs.EscapedNames

/-!
# Fields of a struct

The declaration of a struct has one field for each element of each member, member by member
(`fields_structDeclaration`).  The field of a member that is no array is declared under the identifier of the
member, and the fields of an array under the member's name with the number of the element behind it.

Numbered names are apart from each other: the number is what stands behind the last underscore.  They are apart
from escaped keywords, which end in an underscore.  They are not apart from a member that is itself named like an
element of an array, and this is the only way in which the field of an element meets another one
(`element_clash_iff`).  Such a struct can be built (`build_accepts_element_clash`).
-/

namespace ApiBindings

set_option autoImplicit false

open Binding

/-- The elements of a struct's members, member by member. -/
def Aggregate.elements (aggregate : Aggregate) : List (Member × Nat) :=
  aggregate.members.flatMap fun m => (List.range m.count).map fun element => (m, element)

theorem Aggregate.mem_elements_iff {aggregate : Aggregate} {m : Member} {element : Nat} :
    (m, element) ∈ aggregate.elements ↔ m ∈ aggregate.members ∧ element < m.count := by
  simp [elements]

/-- The position of an element of the member at an index: the elements of the members before it come first. -/
def Aggregate.position (aggregate : Aggregate) (index element : Nat) : Nat :=
  ((aggregate.members.take index).map Member.count).sum + element

theorem Aggregate.getElem?_elements {aggregate : Aggregate} {index : Nat} {m : Member}
    (here : aggregate.members[index]? = some m) {element : Nat} (inside : element < m.count) :
    aggregate.elements[aggregate.position index element]? = some (m, element) := by
  obtain ⟨bound, rfl⟩ := List.getElem?_eq_some_iff.mp here
  have lengths : (aggregate.members.take index).map Member.count =
      ((aggregate.members.map fun m => (List.range m.count).map fun element => (m, element)).map
        List.length).take index := by
    simp [List.map_take, Function.comp_def]
  rw [elements, position, List.flatMap_def, lengths, ← List.getElem?_drop, List.drop_sum_flatten,
    List.drop_eq_getElem_cons (by simpa using bound), List.flatten_cons,
    List.getElem?_append_left (by simpa using inside)]
  simp [inside]

theorem Aggregate.nodup_elements {aggregate : Aggregate}
    (distinct : (aggregate.members.map (·.name)).Nodup) : aggregate.elements.Nodup := by
  rw [elements, List.nodup_flatMap]
  constructor
  · intro m _
    exact List.nodup_range.map fun element other same => congrArg Prod.snd same
  · refine (List.Nodup.of_map _ distinct).imp fun {m other} different => ?_
    -- Elements of different members differ in the member.
    rw [Function.onFun_apply, List.disjoint_left]
    intro entry here there
    obtain ⟨_, -, rfl⟩ := List.mem_map.mp here
    obtain ⟨_, -, same⟩ := List.mem_map.mp there
    exact different (congrArg Prod.fst same).symm

namespace Binding

/-! ## Names of fields -/

/-- The name of the field for an element of a member. -/
def fieldName (m : Member) (element : Nat) : String :=
  if m.isArray then elementName m element else identifier m.name

theorem toList_elementName (m : Member) (element : Nat) :
    (elementName m element).toList = m.name.toList ++ '_' :: Nat.toDigits 10 element := by
  simp [elementName, String.toList_append, Nat.toString_eq_repr, Nat.toList_repr]

theorem underscore_notMem_toDigits (number : Nat) : '_' ∉ Nat.toDigits 10 number := by
  intro mem
  have digit := Nat.isDigit_of_mem_toDigits (by decide) (by decide) mem
  revert digit
  decide

/-- Two ways of cutting a text at its last mark are the same. -/
theorem append_mark_inj {mark : Char} {before other after rest : List Char}
    (missing : mark ∉ after) (absent : mark ∉ rest)
    (same : before ++ mark :: after = other ++ mark :: rest) : before = other ∧ after = rest := by
  rcases List.append_eq_append_iff.mp same with ⟨between, rfl, tail⟩ | ⟨between, rfl, tail⟩
  · cases between with
    | nil => simpa using tail
    | cons _ between =>
        obtain ⟨-, rfl⟩ := List.cons.inj tail
        simp at missing
  · cases between with
    | nil => simpa [eq_comm] using tail
    | cons _ between =>
        obtain ⟨-, rfl⟩ := List.cons.inj tail
        simp at absent

/-- Numbered names are the same only for the same name and number. -/
theorem elementName_eq_iff {m other : Member} {element number : Nat} :
    elementName m element = elementName other number ↔ m.name = other.name ∧ element = number := by
  constructor
  · intro same
    have texts := congrArg String.toList same
    rw [toList_elementName, toList_elementName] at texts
    obtain ⟨names, digits⟩ := append_mark_inj (underscore_notMem_toDigits element)
      (underscore_notMem_toDigits number) texts
    refine ⟨String.toList_injective names, ?_⟩
    rw [← Nat.ofDigitChars_ten_toDigits (n := element), digits, Nat.ofDigitChars_ten_toDigits]
  · rintro ⟨names, rfl⟩
    rw [elementName, elementName, names]

/-- The escape takes no name to that of an element. -/
theorem identifier_eq_elementName_iff {name : String} {m : Member} {element : Nat} :
    identifier name = elementName m element ↔ name = elementName m element := by
  cases keyword : isKeyword name with
  | false => rw [identifier_of_not_keyword keyword]
  | true =>
      rw [identifier_of_keyword keyword]
      constructor
      · intro same
        -- There is nothing behind the underscore of an escaped name.
        have texts := congrArg String.toList same
        rw [toList_elementName, String.toList_append] at texts
        have empty : '_' ∉ ([] : List Char) := List.not_mem_nil
        obtain ⟨-, digits⟩ := append_mark_inj empty (underscore_notMem_toDigits element) texts
        exact absurd digits.symm Nat.toDigits_ne_nil
      · rintro rfl
        have missing := underscore_notMem_of_isKeyword keyword
        rw [toList_elementName] at missing
        simp at missing

/-! ## The fields of a declaration -/

variable {registry : Registry} {aggregate : Aggregate}

theorem structFields_eq_map {m : Member} (positive : 1 ≤ m.count) (type : String) :
    structFields m type = (List.range m.count).map fun element => ⟨fieldName m element, type⟩ := by
  rw [structFields]
  cases array : m.isArray with
  | true => simp only [if_true, fieldName, array]
  | false =>
      have single : m.count = 1 := by
        have few := of_decide_eq_false array
        omega
      simp [fieldName, array, single]

/-- **A struct is declared with one field for each element of each member, in their order.** -/
theorem fields_structDeclaration (counts : ∀ m ∈ aggregate.members, 1 ≤ m.count) :
    (structDeclaration registry aggregate).fields = aggregate.elements.map fun entry =>
      ⟨fieldName entry.1 entry.2, typeText registry entry.1.type⟩ := by
  rw [structDeclaration_eq, declaredFields, Aggregate.elements, List.map_flatMap]
  simp only [List.map_map]
  exact List.flatMap_congr fun m mem => structFields_eq_map (counts m mem) _

/-- Of two elements, of which the first is one of an array, the other one is declared under the same name only
if its member is no array and is named like the first. -/
theorem fieldName_eq_elementName_iff (distinct : (aggregate.members.map (·.name)).Nodup) {m other : Member}
    {element number : Nat} (here : (m, element) ∈ aggregate.elements)
    (there : (other, number) ∈ aggregate.elements) (different : (other, number) ≠ (m, element)) :
    fieldName other number = elementName m element ↔
      other.isArray = false ∧ other.name = elementName m element := by
  rw [fieldName]
  cases array : other.isArray with
  | false =>
      rw [if_neg Bool.false_ne_true, identifier_eq_elementName_iff]
      exact (and_iff_right rfl).symm
  | true =>
      rw [if_pos rfl, elementName_eq_iff]
      refine iff_of_false ?_ (fun plain => Bool.noConfusion plain.1)
      rintro ⟨names, rfl⟩
      obtain ⟨mem, -⟩ := Aggregate.mem_elements_iff.mp here
      obtain ⟨otherMem, -⟩ := Aggregate.mem_elements_iff.mp there
      exact different (by rw [List.inj_on_of_nodup_map distinct otherMem mem names])

theorem getElem?_map_name_fields (counts : ∀ m ∈ aggregate.members, 1 ≤ m.count) (place : Nat) :
    ((structDeclaration registry aggregate).fields.map (·.name))[place]? =
      aggregate.elements[place]?.map fun entry => fieldName entry.1 entry.2 := by
  rw [fields_structDeclaration counts, List.map_map, List.getElem?_map]
  rfl

/-- The name at a position is that of the element of an array elsewhere only if it is the name of a member that is
no array and named like the element. -/
theorem getElem?_map_name_eq_elementName_iff (distinct : (aggregate.members.map (·.name)).Nodup)
    (counts : ∀ m ∈ aggregate.members, 1 ≤ m.count) {m : Member} {element position place : Nat}
    (here : aggregate.elements[position]? = some (m, element)) (elsewhere : place ≠ position) :
    ((structDeclaration registry aggregate).fields.map (·.name))[place]? = some (elementName m element) ↔
      ∃ other number, aggregate.elements[place]? = some (other, number) ∧ other.isArray = false ∧
        other.name = elementName m element := by
  rw [getElem?_map_name_fields counts, Option.map_eq_some_iff, Prod.exists]
  refine exists_congr fun other => exists_congr fun number => and_congr_right fun there => ?_
  refine fieldName_eq_elementName_iff distinct (List.mem_of_getElem? here) (List.mem_of_getElem? there) ?_
  rintro same
  rw [same, ← here] at there
  have bound := (List.getElem?_eq_some_iff.mp (there.trans here)).1
  exact elsewhere ((List.getElem?_inj bound (Aggregate.nodup_elements distinct)).mp there)

/-- **The field of an array's element meets another field only if a member is named like the element.**  The field
stands at a position of its own under the name of the element.  No other field of an array has this name, and
a field of another member has it only if the member is no array and has the name itself. -/
theorem element_clash_iff {document : Document} {registry : Registry}
    (built : document.build = .ok registry) {aggregate : Aggregate} (mem : aggregate ∈ registry.structs)
    {m : Member} (declared : m ∈ aggregate.members) (array : m.isArray = true) {element : Nat}
    (inside : element < m.count) :
    let names := (structDeclaration registry aggregate).fields.map (·.name)
    ∃ position : Nat, names[position]? = some (elementName m element) ∧
      (∀ place ≠ position, names[place]? = some (elementName m element) ↔
        ∃ other number, aggregate.elements[place]? = some (other, number) ∧ other.isArray = false ∧
          other.name = elementName m element) ∧
      ((∀ place ≠ position, names[place]? ≠ some (elementName m element)) ↔
        ∀ other ∈ aggregate.members, other.isArray = false → other.name ≠ elementName m element) := by
  intro names
  have sound := Document.distinct_of_build built
  have distinct := sound.members aggregate (List.mem_append_left _ mem)
  have counts := sound.counts aggregate (List.mem_append_left _ mem)
  obtain ⟨position, here⟩ := List.mem_iff_getElem?.mp (Aggregate.mem_elements_iff.mpr ⟨declared, inside⟩)
  have others : ∀ place ≠ position, names[place]? = some (elementName m element) ↔
      ∃ other number, aggregate.elements[place]? = some (other, number) ∧ other.isArray = false ∧
        other.name = elementName m element :=
    fun place elsewhere => getElem?_map_name_eq_elementName_iff distinct counts here elsewhere
  refine ⟨position, ?_, others, ?_⟩
  · rw [getElem?_map_name_fields counts, here, Option.map_some, fieldName, if_pos array]
  · constructor
    · intro alone other otherMem plain same
      obtain ⟨place, there⟩ := List.mem_iff_getElem?.mp
        (Aggregate.mem_elements_iff.mpr ⟨otherMem, counts other otherMem⟩)
      have elsewhere : place ≠ position := by
        rintro rfl
        rw [here] at there
        cases there
        rw [array] at plain
        cases plain
      exact alone place elsewhere ((others place elsewhere).mpr ⟨other, 0, there, plain, same⟩)
    · intro free place elsewhere found
      obtain ⟨other, number, there, plain, same⟩ := (others place elsewhere).mp found
      obtain ⟨otherMem, -⟩ := Aggregate.mem_elements_iff.mp (List.mem_of_getElem? there)
      exact free other otherMem plain same

/-- A struct with an array, a member that is named like its first element, and an array that is named like its
second one. -/
def numberedStruct : Aggregate := ⟨"Mesh", [⟨"a", "int", 2⟩, ⟨"a_0", "int", 1⟩, ⟨"a_1", "float", 2⟩]⟩

/-- A document of this struct alone. -/
def numberedDocument : Document :=
  { Document.empty with
    structs := [⟨"Mesh", [⟨"a", "int", 2⟩, ⟨"a_0", "int", 1⟩, ⟨"a_1", "float", 2⟩]⟩] }

theorem numberedDocument_built : numberedDocument.build = .ok numberedDocument.registry :=
  Document.build_of_problems_eq_nil (by decide +kernel)

theorem element_clash_in_numberedStruct :
    let names := (structDeclaration numberedDocument.registry numberedStruct).fields.map (·.name)
    numberedStruct ∈ numberedDocument.registry.structs ∧
      ∃ position : Nat, names[position]? = some "a_1" ∧ ∀ place ≠ position, names[place]? ≠ some "a_1" := by
  intro names
  have mem : numberedStruct ∈ numberedDocument.registry.structs := by decide
  have declared : ⟨"a", "int", 2⟩ ∈ numberedStruct.members := by decide
  have inside : 1 < (⟨"a", "int", 2⟩ : Member).count := by decide
  obtain ⟨position, here, -, alone⟩ := element_clash_iff numberedDocument_built mem declared rfl inside
  exact ⟨mem, position, here, alone.mpr (by decide)⟩

/-- A build accepts a struct in which the field of an element has the name of another field. -/
theorem build_accepts_element_clash :
    ∃ document registry, Document.build document = .ok registry ∧
      ∃ aggregate ∈ registry.structs, ∃ m ∈ aggregate.members, m.isArray = true ∧ ∃ element < m.count,
        ∃ position place : Nat, position ≠ place ∧
          ((structDeclaration registry aggregate).fields.map (·.name))[position]? = some (elementName m element) ∧
          ((structDeclaration registry aggregate).fields.map (·.name))[place]? = some (elementName m element) := by
  refine ⟨numberedDocument, numberedDocument.registry, numberedDocument_built, numberedStruct, by decide,
    ⟨"a", "int", 2⟩, by decide, rfl, 0, by decide, 0, 2, by decide, ?_, ?_⟩
  all_goals decide +kernel

end Binding

end ApiBindings
