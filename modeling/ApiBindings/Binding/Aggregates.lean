import ApiBindings.Binding.Script
import ApiBindings.Types.Expansion

/-!
# Structs and unions of the emitted code

Both keep the layout of C.  They differ in their array members: a union keeps an array, while a struct
has one field per element, named by the member and the element's position.
-/

namespace ApiBindings.Binding

set_option autoImplicit false

/-- A field of a struct or a union. -/
structure FieldDeclaration where
  name : String
  type : String
  deriving DecidableEq, Repr

/-- The field as a line. -/
def FieldDeclaration.text (field : FieldDeclaration) : String :=
  "pub " ++ field.name ++ ": " ++ field.type ++ ","

/-- The name of the field for one element of an array member. -/
def elementName (m : Member) (element : Nat) : String := m.name ++ "_" ++ toString element

/-- The fields of a struct for one of its members, whose elements have the given type. -/
def structFields (m : Member) (type : String) : List FieldDeclaration :=
  if m.isArray then (List.range m.count).map fun element => ⟨elementName m element, type⟩
  else [⟨identifier m.name, type⟩]

/-- The field of a union for one of its members, whose elements have the given type. -/
def unionFields (m : Member) (type : String) : List FieldDeclaration :=
  [⟨identifier m.name, if m.isArray then "[" ++ type ++ "; " ++ toString m.count ++ "]" else type⟩]

/-- The declaration of a struct or a union. -/
structure AggregateDeclaration where
  /-- Which of the two it is, in the emitted language. -/
  keyword : String
  name : String
  fields : List FieldDeclaration
  deriving DecidableEq, Repr

/-- The declaration of a struct or a union, given the fields of a member. -/
def aggregateDeclaration (registry : Registry) (keyword : String)
    (fieldsOf : Member → String → List FieldDeclaration) (aggregate : Aggregate) :
    Resolving AggregateDeclaration := do
  let fields ← aggregate.members.mapM fun m =>
    return fieldsOf m (← Types.emittedType registry m.type)
  return ⟨keyword, identifier aggregate.name, fields.flatten⟩

/-- The declarations of a registry's structs. -/
def structDeclarations (registry : Registry) : Resolving (List AggregateDeclaration) :=
  registry.structs.mapM (aggregateDeclaration registry "struct" structFields)

/-- The declarations of a registry's unions. -/
def unionDeclarations (registry : Registry) : Resolving (List AggregateDeclaration) :=
  registry.unions.mapM (aggregateDeclaration registry "union" unionFields)

/-- The declaration as code. -/
def AggregateDeclaration.script (declaration : AggregateDeclaration) : Script :=
  Script.lines ["#[repr(C)]", "#[derive(Clone, Copy)]"]
    ++ Script.block ("pub " ++ declaration.keyword ++ " " ++ declaration.name ++ " \x7b")
      (Script.lines (declaration.fields.map FieldDeclaration.text)) "\x7d"

end ApiBindings.Binding
