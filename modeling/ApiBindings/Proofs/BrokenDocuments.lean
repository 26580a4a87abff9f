import ApiBindings.Proofs.DocumentTexts
import ApiBindings.Registry.Build

/-!
# Broken documents are refused

A document text is broken when somewhere in it an object that stands for a record has a key that is no
field, has a key twice or lacks a required field, or when an integer is out of the range of its field.
`Broken` says so over the shape of the document, however deep the defect lies and whatever stands around
it, and `ofText_of_broken` that every such text is refused.

A shape has nothing of a value in it.  That a value's form excludes the defects of a shape is shown for each
form, from the integers up to the document, and a text that is decoded is in the form of a document.
-/

namespace ApiBindings.Document

set_option autoImplicit false

/-! ## Shapes and defects -/

/-- What is looked at in a document: records with their fields, sequences, and the ranges of integers. -/
inductive Shape where
  | scalar
  | integer (least greatest : Int)
  | sequence (element : Shape)
  /-- Each field has a key, whether it is required, and a shape. -/
  | record (fields : List (String × Bool × Shape))

/-- Somewhere in a JSON value is a defect. -/
inductive Broken : Shape → Json → Prop where
  | outOfRange {least greatest n : Int} {json : Json} :
      json.integer? = some n → n < least ∨ greatest < n → Broken (.integer least greatest) json
  | unknown {fields : List (String × Bool × Shape)} {members : List (String × Json)} {key : String} :
      key ∈ members.map (·.1) → key ∉ fields.map (·.1) → Broken (.record fields) (.object members)
  | repeated {fields : List (String × Bool × Shape)} {members : List (String × Json)} :
      ¬ (members.map (·.1)).Nodup → Broken (.record fields) (.object members)
  | missing {fields : List (String × Bool × Shape)} {members : List (String × Json)} {key : String}
      {shape : Shape} :
      (key, true, shape) ∈ fields → key ∉ members.map (·.1) → Broken (.record fields) (.object members)
  | member {fields : List (String × Bool × Shape)} {members : List (String × Json)} {key : String}
      {required : Bool} {shape : Shape} {json : Json} :
      (key, required, shape) ∈ fields → (key, json) ∈ members → Broken shape json →
      Broken (.record fields) (.object members)
  | short {fields : List (String × Bool × Shape)} {items : List Json} {key : String} {shape : Shape}
      {index : Nat} :
      fields[index]? = some (key, true, shape) → items.length ≤ index →
      Broken (.record fields) (.array items)
  | position {fields : List (String × Bool × Shape)} {items : List Json} {key : String}
      {required : Bool} {shape : Shape} {json : Json} {index : Nat} :
      fields[index]? = some (key, required, shape) → items[index]? = some json → Broken shape json →
      Broken (.record fields) (.array items)
  | element {shape : Shape} {items : List Json} {json : Json} :
      json ∈ items → Broken shape json → Broken (.sequence shape) (.array items)

namespace Shape

def u8 : Shape := .integer 0 255

def u32 : Shape := .integer 0 4294967295

def i64 : Shape := .integer (-9223372036854775808) 9223372036854775807

def enumerant : Shape := .record [("name", true, .scalar), ("value", true, .i64)]

def param : Shape := .record [("name", true, .scalar), ("type", true, .scalar)]

def memberRow : Shape :=
  .record [("name", true, .scalar), ("type", true, .scalar), ("count", false, .u32)]

def constant : Shape :=
  .record [("name", true, .scalar), ("type", false, .scalar), ("value", false, .scalar),
    ("alias", false, .scalar)]

def enumeration : Shape :=
  .record [("name", true, .scalar), ("kind", false, .scalar), ("bitwidth", false, .u8),
    ("values", false, .sequence .enumerant)]

def aggregate : Shape := .record [("name", true, .scalar), ("members", false, .sequence .memberRow)]

def handle : Shape := .record [("name", true, .scalar), ("dispatchable", false, .scalar)]

def typedef : Shape := .record [("name", true, .scalar), ("type", true, .scalar)]

def function : Shape :=
  .record [("name", true, .scalar), ("return_type", false, .scalar),
    ("parameters", false, .sequence .param), ("alias", false, .scalar)]

/-- The shape of a document. -/
def document : Shape :=
  .record [("constants", false, .sequence .constant), ("enums", false, .sequence .enumeration),
    ("structs", false, .sequence .aggregate), ("unions", false, .sequence .aggregate),
    ("handles", false, .sequence .handle), ("typedefs", false, .sequence .typedef),
    ("base_types", false, .sequence .typedef), ("func_pointers", false, .sequence .function),
    ("commands", false, .sequence .function)]

end Shape

/-! ## Values in a form have no defect -/

variable {α ρ : Type}

/-- What stands for a value is not broken. -/
def Form.Excludes (form : Form α) (shape : Shape) : Prop :=
  ∀ value json, form value json → ¬ Broken shape json

theorem excludes_scalar (form : Form α) : form.Excludes .scalar := nofun

theorem excludes_u8 : Form.u8.Excludes .u8 := by
  intro value json meant broken
  cases broken with
  | outOfRange found outside =>
    have := value.toNat_lt
    cases meant.symm.trans found
    omega

theorem excludes_u32 : Form.u32.Excludes .u32 := by
  intro value json meant broken
  cases broken with
  | outOfRange found outside =>
    have := value.toNat_lt
    cases meant.symm.trans found
    omega

theorem excludes_i64 : Form.i64.Excludes .i64 := by
  intro value json meant broken
  cases broken with
  | outOfRange found outside =>
    have ge := value.le_toInt
    have lt := value.toInt_lt
    cases meant.symm.trans found
    omega

theorem excludes_nullable {form : Form α} {shape : Shape} (excludes : form.Excludes shape)
    (sound : ¬ Broken shape .null) : (Form.nullable form).Excludes shape
  | none, _, rfl => sound
  | some value, json, meant => excludes value json meant

theorem excludes_sequence {form : Form α} {shape : Shape} (excludes : form.Excludes shape) :
    (Form.sequence form).Excludes (.sequence shape) := by
  rintro values _ ⟨items, rfl, all⟩ broken
  cases broken with
  | element mem broken =>
    obtain ⟨value, -, meant⟩ := exists_of_forall₂ all.flip mem
    exact excludes _ _ meant broken

/-- A part of a record has the key, the presence and the shape of a field. -/
structure Part.Matches (part : Part ρ) (field : String × Bool × Shape) : Prop where
  key_eq : part.key = field.1
  required_eq : field.2.1 = part.default?.isNone
  excludes : part.form.Excludes field.2.2

section Record

variable {parts : List (Part ρ)} {fields : List (String × Bool × Shape)} {record : ρ}
  {members : List (String × Json)}

theorem Assigns.not_missing (assigns : Assigns parts record members) {part : Part ρ} (mem : part ∈ parts)
    (required : part.default?.isNone) : part.key ∈ members.map (·.1) := by
  by_contra unwritten
  rw [assigns.leftOut part mem unwritten] at required
  cases required

theorem Assigns.form_of_mem (determine : Determine parts) (assigns : Assigns parts record members)
    {part : Part ρ} {json : Json} (mem : part ∈ parts) (written : (part.key, json) ∈ members) :
    part.form (part.get record) json := by
  obtain ⟨other, mem', same, meant⟩ := assigns.written _ written
  obtain rfl := determine.eq_of_key_eq mem' mem same
  exact meant

/-- The keys that an array gives its items are those of the fields at the same places. -/
theorem getElem?_zip_keys {items : List Json} {key : String} {json : Json} {index : Nat} :
    ((parts.map (·.key)).zip items)[index]? = some (key, json) ↔
      (∃ part, parts[index]? = some part ∧ part.key = key) ∧ items[index]? = some json := by
  simp [List.getElem?_zip_eq_some]

/-- An array that gives a record its fields goes as far as the required ones. -/
theorem Assigns.lt_length (determine : Determine parts) {items : List Json}
    (assigns : Assigns parts record ((parts.map (·.key)).zip items)) {part : Part ρ} {index : Nat}
    (found : parts[index]? = some part) (required : part.default?.isNone) : index < items.length := by
  obtain ⟨entry, mem, same⟩ :=
    List.mem_map.1 (assigns.not_missing (List.mem_of_getElem? found) required)
  obtain ⟨place, at_place⟩ := List.mem_iff_getElem?.1 mem
  obtain ⟨⟨other, found', same'⟩, item⟩ := getElem?_zip_keys.1 at_place
  have here : (parts.map (·.key))[index]? = some part.key := by rw [List.getElem?_map, found]; rfl
  have there : (parts.map (·.key))[place]? = some part.key := by
    rw [List.getElem?_map, found', Option.map_some, same', same]
  -- The keys are different, so the item under the part's key stands at the part's place.
  obtain ⟨bound, -⟩ := List.getElem?_eq_some_iff.1 here
  obtain rfl := (List.getElem?_inj bound determine.distinct).1 (here.trans there.symm)
  exact (List.getElem?_eq_some_iff.1 item).1

/-- **What stands for a record has none of the defects of its shape,** if the parts match its fields. -/
theorem excludes_record (determine : Determine parts)
    (all : List.Forall₂ Part.Matches parts fields) : (Form.record parts).Excludes (.record fields) := by
  intro record json meant broken
  cases broken with
  | unknown written unknown =>
    obtain ⟨entry, mem, rfl⟩ := List.mem_map.1 written
    obtain ⟨part, mem', same, -⟩ := meant.written entry mem
    obtain ⟨field, mem'', matched⟩ := exists_of_forall₂ all mem'
    exact unknown (List.mem_map.2 ⟨field, mem'', matched.key_eq.symm.trans same⟩)
  | repeated again => exact again meant.distinct
  | missing field absent =>
    obtain ⟨part, mem, ⟨same, required, -⟩⟩ := exists_of_forall₂ all.flip field
    cases same
    exact absent (meant.not_missing mem required.symm)
  | member field written broken =>
    obtain ⟨part, mem, ⟨same, -, excludes⟩⟩ := exists_of_forall₂ all.flip field
    cases same
    exact excludes _ _ (meant.form_of_mem determine mem written) broken
  | short field ended =>
    obtain ⟨part, found, -, required, -⟩ := getElem?_of_forall₂ all.flip field
    exact Nat.not_le.2 (meant.2.lt_length determine found required.symm) ended
  | position field item broken =>
    obtain ⟨part, found, ⟨same, -, excludes⟩⟩ := getElem?_of_forall₂ all.flip field
    cases same
    refine excludes _ _ (meant.2.form_of_mem determine (List.mem_of_getElem? found) ?_) broken
    exact List.mem_of_getElem? (getElem?_zip_keys.2 ⟨⟨part, found, rfl⟩, item⟩)

end Record

/-! ## Documents -/

theorem not_broken_null {least greatest : Int} : ¬ Broken (.integer least greatest) .null := by
  rintro ⟨found, -⟩
  cases found

theorem excludes_enumerant : (Form.record enumerantParts).Excludes .enumerant := by
  refine excludes_record determine_enumerant ?_
  simp only [enumerantParts, List.forall₂_cons, List.forall₂_nil_left_iff, and_true]
  exact ⟨⟨rfl, rfl, excludes_scalar _⟩,
    ⟨rfl, rfl, excludes_i64⟩⟩

theorem excludes_param : (Form.record paramParts).Excludes .param := by
  refine excludes_record determine_param ?_
  simp only [paramParts, List.forall₂_cons, List.forall₂_nil_left_iff, and_true]
  exact ⟨⟨rfl, rfl, excludes_scalar _⟩,
    ⟨rfl, rfl, excludes_scalar _⟩⟩

theorem excludes_member : (Form.record memberParts).Excludes .memberRow := by
  refine excludes_record determine_member ?_
  simp only [memberParts, List.forall₂_cons, List.forall₂_nil_left_iff, and_true]
  exact ⟨⟨rfl, rfl, excludes_scalar _⟩,
    ⟨rfl, rfl, excludes_scalar _⟩,
    ⟨rfl, rfl, excludes_u32⟩⟩

theorem excludes_constant : (Form.record constantParts).Excludes .constant := by
  refine excludes_record determine_constant ?_
  simp only [constantParts, List.forall₂_cons, List.forall₂_nil_left_iff, and_true]
  exact ⟨⟨rfl, rfl, excludes_scalar _⟩,
    ⟨rfl, rfl, excludes_scalar _⟩,
    ⟨rfl, rfl, excludes_scalar _⟩,
    ⟨rfl, rfl, excludes_scalar _⟩⟩

theorem excludes_enum : (Form.record enumParts).Excludes .enumeration := by
  refine excludes_record determine_enum ?_
  simp only [enumParts, List.forall₂_cons, List.forall₂_nil_left_iff, and_true]
  exact ⟨⟨rfl, rfl, excludes_scalar _⟩,
    ⟨rfl, rfl, excludes_scalar _⟩,
    ⟨rfl, rfl, excludes_nullable excludes_u8 not_broken_null⟩,
    ⟨rfl, rfl, excludes_sequence excludes_enumerant⟩⟩

theorem excludes_aggregate : (Form.record aggregateParts).Excludes .aggregate := by
  refine excludes_record determine_aggregate ?_
  simp only [aggregateParts, List.forall₂_cons, List.forall₂_nil_left_iff, and_true]
  exact ⟨⟨rfl, rfl, excludes_scalar _⟩,
    ⟨rfl, rfl, excludes_sequence excludes_member⟩⟩

theorem excludes_handle : (Form.record handleParts).Excludes .handle := by
  refine excludes_record determine_handle ?_
  simp only [handleParts, List.forall₂_cons, List.forall₂_nil_left_iff, and_true]
  exact ⟨⟨rfl, rfl, excludes_scalar _⟩,
    ⟨rfl, rfl, excludes_scalar _⟩⟩

theorem excludes_typedef : (Form.record typedefParts).Excludes .typedef := by
  refine excludes_record determine_typedef ?_
  simp only [typedefParts, List.forall₂_cons, List.forall₂_nil_left_iff, and_true]
  exact ⟨⟨rfl, rfl, excludes_scalar _⟩,
    ⟨rfl, rfl, excludes_scalar _⟩⟩

theorem excludes_function : (Form.record functionParts).Excludes .function := by
  refine excludes_record determine_function ?_
  simp only [functionParts, List.forall₂_cons, List.forall₂_nil_left_iff, and_true]
  exact ⟨⟨rfl, rfl, excludes_scalar _⟩,
    ⟨rfl, rfl, excludes_scalar _⟩,
    ⟨rfl, rfl, excludes_sequence excludes_param⟩,
    ⟨rfl, rfl, excludes_scalar _⟩⟩

theorem excludes_document : Form.document.Excludes .document := by
  refine excludes_record determine_document ?_
  simp only [documentParts, List.forall₂_cons, List.forall₂_nil_left_iff, and_true]
  exact ⟨⟨rfl, rfl, excludes_sequence excludes_constant⟩,
    ⟨rfl, rfl, excludes_sequence excludes_enum⟩,
    ⟨rfl, rfl, excludes_sequence excludes_aggregate⟩,
    ⟨rfl, rfl, excludes_sequence excludes_aggregate⟩,
    ⟨rfl, rfl, excludes_sequence excludes_handle⟩,
    ⟨rfl, rfl, excludes_sequence excludes_typedef⟩,
    ⟨rfl, rfl, excludes_sequence excludes_typedef⟩,
    ⟨rfl, rfl, excludes_sequence excludes_function⟩,
    ⟨rfl, rfl, excludes_sequence excludes_function⟩⟩

/-! ## Broken texts -/

/-- **A text that is broken anywhere is refused as malformed.**  Nothing is dropped or changed on the
way: a text is decoded only as a document that its value stands for. -/
theorem ofText_of_broken {json : Json} {source : String} (written : json.IsTextOf source.toList) :
    (Broken .document json → ∃ fault, Registry.ofText source = .error (.malformed fault)) ∧
      ∀ document, decode source = .ok document ↔ Form.document document json := by
  have decoded_iff (document : Document) := @decode_eq_ok_iff json source written document
  refine ⟨fun broken => ?_, decoded_iff⟩
  cases outcome : decode source with
  | ok document => exact absurd broken (excludes_document _ _ ((decoded_iff document).1 outcome))
  | error fault => exact ⟨fault, by rw [Registry.ofText, outcome]⟩

/-- A document whose only struct has a member with more elements than a count can hold. -/
def oversizedJson : Json :=
  .array [.array [], .array [], .array [.object
    [ ("name", .text "S"),
      ("members", .array [.array [.text "m", .text "int", .number false "4294967296".toList []]]) ]]]

theorem oversizedJson_broken : Broken .document oversizedJson := by
  have count : Broken .memberRow
      (.array [.text "m", .text "int", .number false "4294967296".toList []]) :=
    @Broken.position _ _ _ _ _ _ 2 rfl rfl (.outOfRange rfl (.inr (by decide)))
  have row : Broken .aggregate (.object
      [ ("name", .text "S"),
        ("members", .array [.array [.text "m", .text "int", .number false "4294967296".toList []]]) ]) :=
    .member (List.mem_cons_of_mem _ List.mem_cons_self) (List.mem_cons_of_mem _ List.mem_cons_self)
      (.element List.mem_cons_self count)
  exact @Broken.position _ _ _ _ _ _ 2 rfl rfl (.element List.mem_cons_self row)

/-- A text of it. -/
def oversizedText : String :=
  "[[],[],[\x7b\"name\":\"S\",\"members\":[[\"m\",\"int\",4294967296]]\x7d]]"

theorem oversizedJson_isTextOf : oversizedJson.IsTextOf oversizedText.toList := by
  have gap : Blanks [] := by decide
  have first : Separator true [] := .first gap
  have comma : Separator false [','] := @Separator.later [] [] gap gap
  have none : Json.WrittenAs (.array []) _ := .array (.close gap)
  have count : Json.WrittenAs (.number false "4294967296".toList []) _ :=
    @Json.WrittenAs.number false _ [] [] (by decide) .absent .absent
  have member : Json.WrittenAs
      (.array [.text "m", .text "int", .number false "4294967296".toList []]) _ :=
    .array (.item first (.text (textWrittenAs_plain (by simp)))
      (.item comma (.text (textWrittenAs_plain (by simp))) (.item comma count (.close gap))))
  have row : Json.WrittenAs (.object
      [ ("name", .text "S"),
        ("members", .array [.array [.text "m", .text "int", .number false "4294967296".toList []]]) ]) _ :=
    .object (.member first (textWrittenAs_plain (by simp)) gap gap
      (.text (textWrittenAs_plain (by simp)))
      (.member comma (textWrittenAs_plain (by simp)) gap gap
        (.array (.item first member (.close gap))) (.close gap)))
  have whole : oversizedJson.WrittenAs _ :=
    .array (.item first none (.item comma none (.item comma
      (.array (.item first row (.close gap))) (.close gap))))
  exact ⟨[], _, [], gap, whole, gap, by decide +kernel⟩

theorem ofText_oversizedText :
    (oversizedJson.IsTextOf oversizedText.toList ∧ Broken .document oversizedJson) ∧
      ∃ fault, Registry.ofText oversizedText = .error (.malformed fault) :=
  ⟨⟨oversizedJson_isTextOf, oversizedJson_broken⟩,
    (ofText_of_broken oversizedJson_isTextOf).1 oversizedJson_broken⟩

end ApiBindings.Document
