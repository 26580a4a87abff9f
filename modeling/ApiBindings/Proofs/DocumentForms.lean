import ApiBindings.Proofs.JsonText

/-!
# The forms of a registry document

A form says which JSON values stand for a value of some type.  The forms here are those of a registry
document, from its texts and integers up to `Form.document`; none of them mentions a reader.  A record
is an object that has each field at most once and leaves out only fields at their defaults, in any
order; an array stands for the object that gives its items to the first fields in declaration order.
-/

namespace ApiBindings.Document

set_option autoImplicit false

/-- Which JSON values stand for a value. -/
abbrev Form (α : Type) := α → Json → Prop

/-- A field of a record. -/
structure Part (ρ : Type) where
  key : String
  /-- The type of the field's value. -/
  Value : Type
  get : ρ → Value
  form : Form Value
  /-- The value of a field that is left out; a required field has none. -/
  default? : Option Value

variable {α ρ : Type}

/-- Members give a record its fields. -/
structure Assigns (parts : List (Part ρ)) (record : ρ) (members : List (String × Json)) : Prop where
  distinct : (members.map (·.1)).Nodup
  /-- Every member is a field of the record, with its value. -/
  written : ∀ member ∈ members,
    ∃ part ∈ parts, part.key = member.1 ∧ part.form (part.get record) member.2
  /-- Every other field has its default. -/
  leftOut : ∀ part ∈ parts, part.key ∉ members.map (·.1) → part.default? = some (part.get record)

namespace Form

/-! ## Scalars -/

def text : Form String := fun value json => json = .text value

def boolean : Form Bool := fun value json => json = .boolean value

def u8 : Form UInt8 := fun value json => json.integer? = some (value.toNat : Int)

def u32 : Form UInt32 := fun value json => json.integer? = some (value.toNat : Int)

def i64 : Form Int64 := fun value json => json.integer? = some value.toInt

/-- An absent value is null. -/
def nullable (form : Form α) : Form (Option α)
  | none, json => json = .null
  | some value, json => form value json

/-- A variant is one of its spellings, or the object that maps the spelling to null. -/
def variant (spellings : α → List String) : Form α := fun value json =>
  ∃ spelling ∈ spellings value, json = .text spelling ∨ json = .object [(spelling, .null)]

/-! ## Sequences and records -/

def sequence (form : Form α) : Form (List α) := fun values json =>
  ∃ items, json = .array items ∧ List.Forall₂ form values items

def record (parts : List (Part ρ)) : Form ρ
  | value, .object members => Assigns parts value members
  | value, .array items =>
    items.length ≤ parts.length ∧ Assigns parts value ((parts.map (·.key)).zip items)
  | _, _ => False

end Form

/-! ## The spellings of variants -/

/-- The spellings of the scalar types in documents. -/
def scalarSpellings : ScalarType → List String
  | .u32 => ["uint32", "uint32_t", "u32"]
  | .u64 => ["uint64", "uint64_t", "u64"]
  | .i32 => ["int32", "int32_t", "i32"]
  | .i64 => ["int64", "int64_t", "i64"]
  | .f32 => ["float32", "float", "f32"]
  | .f64 => ["float64", "double", "f64"]
  | .str => ["string", "str"]

/-- The spellings of the enumeration kinds in documents. -/
def kindSpellings : EnumKind → List String
  | .plain => ["enum"]
  | .bitmask => ["bitmask"]

/-! ## The records of a document -/

def enumerantParts : List (Part Enumerant) :=
  [ ⟨"name", _, (·.name), .text, none⟩,
    ⟨"value", _, (·.value), .i64, none⟩ ]

def paramParts : List (Part Param) :=
  [ ⟨"name", _, (·.name), .text, none⟩,
    ⟨"type", _, (·.type), .text, none⟩ ]

def memberParts : List (Part MemberRow) :=
  [ ⟨"name", _, (·.name), .text, none⟩,
    ⟨"type", _, (·.type), .text, none⟩,
    ⟨"count", _, (·.count), .u32, some 1⟩ ]

def constantParts : List (Part ConstantRow) :=
  [ ⟨"name", _, (·.name), .text, none⟩,
    ⟨"type", _, (·.type), .nullable (.variant scalarSpellings), some none⟩,
    ⟨"value", _, (·.value), .nullable .text, some none⟩,
    ⟨"alias", _, (·.aliasOf), .nullable .text, some none⟩ ]

def enumParts : List (Part EnumRow) :=
  [ ⟨"name", _, (·.name), .text, none⟩,
    ⟨"kind", _, (·.kind), .variant kindSpellings, some .plain⟩,
    ⟨"bitwidth", _, (·.bitWidth), .nullable .u8, some none⟩,
    ⟨"values", _, (·.values), .sequence (.record enumerantParts), some []⟩ ]

def aggregateParts : List (Part AggregateRow) :=
  [ ⟨"name", _, (·.name), .text, none⟩,
    ⟨"members", _, (·.members), .sequence (.record memberParts), some []⟩ ]

def handleParts : List (Part Handle) :=
  [ ⟨"name", _, (·.name), .text, none⟩,
    ⟨"dispatchable", _, (·.dispatchable), .boolean, some false⟩ ]

def typedefParts : List (Part Typedef) :=
  [ ⟨"name", _, (·.name), .text, none⟩,
    ⟨"type", _, (·.target), .text, none⟩ ]

def functionParts : List (Part FunctionRow) :=
  [ ⟨"name", _, (·.name), .text, none⟩,
    ⟨"return_type", _, (·.returnType), .text, some "void"⟩,
    ⟨"parameters", _, (·.params), .sequence (.record paramParts), some []⟩,
    ⟨"alias", _, (·.aliasOf), .nullable .text, some none⟩ ]

def documentParts : List (Part Document) :=
  [ ⟨"constants", _, (·.constants), .sequence (.record constantParts), some []⟩,
    ⟨"enums", _, (·.enums), .sequence (.record enumParts), some []⟩,
    ⟨"structs", _, (·.structs), .sequence (.record aggregateParts), some []⟩,
    ⟨"unions", _, (·.unions), .sequence (.record aggregateParts), some []⟩,
    ⟨"handles", _, (·.handles), .sequence (.record handleParts), some []⟩,
    ⟨"typedefs", _, (·.typedefs), .sequence (.record typedefParts), some []⟩,
    ⟨"base_types", _, (·.baseTypes), .sequence (.record typedefParts), some []⟩,
    ⟨"func_pointers", _, (·.funcPointers), .sequence (.record functionParts), some []⟩,
    ⟨"commands", _, (·.commands), .sequence (.record functionParts), some []⟩ ]

/-- The JSON values that stand for a document. -/
def Form.document : Form Document := .record documentParts

end ApiBindings.Document
