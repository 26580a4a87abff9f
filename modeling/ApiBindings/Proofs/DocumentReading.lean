import ApiBindings.Document.Decode
import ApiBindings.Proofs.RecordReading

/-!
# The document reader follows the document form

Each format of a registry document reads the parts of its record, so its reader follows its form.  The
records are taken from the inside out: enumerants, parameters and members first, then the rows they occur
in, and the document last.
-/

namespace ApiBindings.Document

set_option autoImplicit false

open Reader

/-! ## Variants -/

theorem lookup_eq_some_iff {α : Type} {names : List (String × α)} {spellings : α → List String}
    (sound : ∀ entry ∈ names, entry.1 ∈ spellings entry.2)
    (complete : ∀ value, ∀ name ∈ spellings value, names.lookup name = some value)
    (name : String) (value : α) : names.lookup name = some value ↔ name ∈ spellings value := by
  constructor
  · intro found
    obtain ⟨before, after, rfl, -⟩ := List.lookup_eq_some_iff.1 found
    exact sound _ (List.mem_append_right _ List.mem_cons_self)
  · exact complete value name

theorem follows_scalarType : Follows (variant ScalarType.names) (.variant scalarSpellings) := by
  refine follows_variant (lookup_eq_some_iff (by decide) ?_)
  rintro ⟨⟩ <;> decide

theorem follows_nullable_scalarType :
    Follows (nullable (variant ScalarType.names)) (.nullable (.variant scalarSpellings)) :=
  follows_nullable follows_scalarType (by simp [Form.variant])

theorem follows_enumKind : Follows (variant EnumKind.names) (.variant kindSpellings) := by
  refine follows_variant (lookup_eq_some_iff (by decide) ?_)
  rintro ⟨⟩ <;> decide

/-! ## Fields that several records have -/

theorem follows_nullable_text : Follows (nullable text) (.nullable .text) :=
  follows_nullable follows_text nofun

theorem follows_rows {ρ : Type} {parts : List (Part ρ)} {format : RecordFormat ρ}
    (isFormat : FormatOf parts format) :
    Follows (sequence (record format)) (.sequence (.record parts)) :=
  follows_sequence (follows_record isFormat)

/-! ## Parts of rows -/

theorem determine_enumerant : Determine enumerantParts where
  distinct := by decide
  ext := by
    rintro ⟨⟩ ⟨⟩ same
    simpa [enumerantParts] using same

theorem formatOf_enumerant : FormatOf enumerantParts enumerantFormat where
  toDetermine := determine_enumerant
  fills := by
    simp only [enumerantFormat, enumerantParts, List.forall₂_cons, List.forall₂_nil_left_iff, and_true]
    refine ⟨determine_enumerant.fills_of ?_ rfl follows_text (fun _ _ => rfl) ?_,
      determine_enumerant.fills_of ?_ rfl follows_i64 (fun _ _ => rfl) ?_⟩
    all_goals simp [enumerantParts]
  blank := by simp [enumerantParts, enumerantFormat]

theorem determine_param : Determine paramParts where
  distinct := by decide
  ext := by
    rintro ⟨⟩ ⟨⟩ same
    simpa [paramParts] using same

theorem formatOf_param : FormatOf paramParts paramFormat where
  toDetermine := determine_param
  fills := by
    simp only [paramFormat, paramParts, List.forall₂_cons, List.forall₂_nil_left_iff, and_true]
    refine ⟨determine_param.fills_of ?_ rfl follows_text (fun _ _ => rfl) ?_,
      determine_param.fills_of ?_ rfl follows_text (fun _ _ => rfl) ?_⟩
    all_goals simp [paramParts]
  blank := by simp [paramParts, paramFormat]

theorem determine_member : Determine memberParts where
  distinct := by decide
  ext := by
    rintro ⟨⟩ ⟨⟩ same
    simpa [memberParts] using same

theorem formatOf_member : FormatOf memberParts memberFormat where
  toDetermine := determine_member
  fills := by
    simp only [memberFormat, memberParts, List.forall₂_cons, List.forall₂_nil_left_iff, and_true]
    refine ⟨determine_member.fills_of ?_ rfl follows_text (fun _ _ => rfl) ?_,
      determine_member.fills_of ?_ rfl follows_text (fun _ _ => rfl) ?_,
      determine_member.fills_of ?_ rfl follows_u32 (fun _ _ => rfl) ?_⟩
    all_goals simp [memberParts]
  blank := by simp [memberParts, memberFormat]

/-! ## Rows -/

theorem determine_constant : Determine constantParts where
  distinct := by decide
  ext := by
    rintro ⟨⟩ ⟨⟩ same
    simpa [constantParts] using same

theorem formatOf_constant : FormatOf constantParts constantFormat where
  toDetermine := determine_constant
  fills := by
    simp only [constantFormat, constantParts, List.forall₂_cons, List.forall₂_nil_left_iff, and_true]
    refine ⟨determine_constant.fills_of ?_ rfl follows_text (fun _ _ => rfl) ?_,
      determine_constant.fills_of ?_ rfl follows_nullable_scalarType (fun _ _ => rfl) ?_,
      determine_constant.fills_of ?_ rfl follows_nullable_text (fun _ _ => rfl) ?_,
      determine_constant.fills_of ?_ rfl follows_nullable_text (fun _ _ => rfl) ?_⟩
    all_goals simp [constantParts]
  blank := by simp [constantParts, constantFormat]

theorem determine_enum : Determine enumParts where
  distinct := by decide
  ext := by
    rintro ⟨⟩ ⟨⟩ same
    simpa [enumParts] using same

theorem formatOf_enum : FormatOf enumParts enumFormat where
  toDetermine := determine_enum
  fills := by
    simp only [enumFormat, enumParts, List.forall₂_cons, List.forall₂_nil_left_iff, and_true]
    refine ⟨determine_enum.fills_of ?_ rfl follows_text (fun _ _ => rfl) ?_,
      determine_enum.fills_of ?_ rfl follows_enumKind (fun _ _ => rfl) ?_,
      determine_enum.fills_of ?_ rfl (follows_nullable follows_u8 nofun) (fun _ _ => rfl) ?_,
      determine_enum.fills_of ?_ rfl (follows_rows formatOf_enumerant) (fun _ _ => rfl) ?_⟩
    all_goals simp [enumParts]
  blank := by simp [enumParts, enumFormat]

theorem determine_aggregate : Determine aggregateParts where
  distinct := by decide
  ext := by
    rintro ⟨⟩ ⟨⟩ same
    simpa [aggregateParts] using same

theorem formatOf_aggregate : FormatOf aggregateParts aggregateFormat where
  toDetermine := determine_aggregate
  fills := by
    simp only [aggregateFormat, aggregateParts, List.forall₂_cons, List.forall₂_nil_left_iff, and_true]
    refine ⟨determine_aggregate.fills_of ?_ rfl follows_text (fun _ _ => rfl) ?_,
      determine_aggregate.fills_of ?_ rfl (follows_rows formatOf_member) (fun _ _ => rfl) ?_⟩
    all_goals simp [aggregateParts]
  blank := by simp [aggregateParts, aggregateFormat]

theorem determine_handle : Determine handleParts where
  distinct := by decide
  ext := by
    rintro ⟨⟩ ⟨⟩ same
    simpa [handleParts] using same

theorem formatOf_handle : FormatOf handleParts handleFormat where
  toDetermine := determine_handle
  fills := by
    simp only [handleFormat, handleParts, List.forall₂_cons, List.forall₂_nil_left_iff, and_true]
    refine ⟨determine_handle.fills_of ?_ rfl follows_text (fun _ _ => rfl) ?_,
      determine_handle.fills_of ?_ rfl follows_boolean (fun _ _ => rfl) ?_⟩
    all_goals simp [handleParts]
  blank := by simp [handleParts, handleFormat]

theorem determine_typedef : Determine typedefParts where
  distinct := by decide
  ext := by
    rintro ⟨⟩ ⟨⟩ same
    simpa [typedefParts] using same

theorem formatOf_typedef : FormatOf typedefParts typedefFormat where
  toDetermine := determine_typedef
  fills := by
    simp only [typedefFormat, typedefParts, List.forall₂_cons, List.forall₂_nil_left_iff, and_true]
    refine ⟨determine_typedef.fills_of ?_ rfl follows_text (fun _ _ => rfl) ?_,
      determine_typedef.fills_of ?_ rfl follows_text (fun _ _ => rfl) ?_⟩
    all_goals simp [typedefParts]
  blank := by simp [typedefParts, typedefFormat]

theorem determine_function : Determine functionParts where
  distinct := by decide
  ext := by
    rintro ⟨⟩ ⟨⟩ same
    simpa [functionParts] using same

theorem formatOf_function : FormatOf functionParts functionFormat where
  toDetermine := determine_function
  fills := by
    simp only [functionFormat, functionParts, List.forall₂_cons, List.forall₂_nil_left_iff, and_true]
    refine ⟨determine_function.fills_of ?_ rfl follows_text (fun _ _ => rfl) ?_,
      determine_function.fills_of ?_ rfl follows_text (fun _ _ => rfl) ?_,
      determine_function.fills_of ?_ rfl (follows_rows formatOf_param) (fun _ _ => rfl) ?_,
      determine_function.fills_of ?_ rfl follows_nullable_text (fun _ _ => rfl) ?_⟩
    all_goals simp [functionParts]
  blank := by simp [functionParts, functionFormat]

/-! ## The document -/

theorem determine_document : Determine documentParts where
  distinct := by decide
  ext := by
    rintro ⟨⟩ ⟨⟩ same
    simpa [documentParts] using same

theorem formatOf_document : FormatOf documentParts documentFormat where
  toDetermine := determine_document
  fills := by
    simp only [documentFormat, documentParts, List.forall₂_cons, List.forall₂_nil_left_iff, and_true]
    refine ⟨determine_document.fills_of ?_ rfl (follows_rows formatOf_constant) (fun _ _ => rfl) ?_,
      determine_document.fills_of ?_ rfl (follows_rows formatOf_enum) (fun _ _ => rfl) ?_,
      determine_document.fills_of ?_ rfl (follows_rows formatOf_aggregate) (fun _ _ => rfl) ?_,
      determine_document.fills_of ?_ rfl (follows_rows formatOf_aggregate) (fun _ _ => rfl) ?_,
      determine_document.fills_of ?_ rfl (follows_rows formatOf_handle) (fun _ _ => rfl) ?_,
      determine_document.fills_of ?_ rfl (follows_rows formatOf_typedef) (fun _ _ => rfl) ?_,
      determine_document.fills_of ?_ rfl (follows_rows formatOf_typedef) (fun _ _ => rfl) ?_,
      determine_document.fills_of ?_ rfl (follows_rows formatOf_function) (fun _ _ => rfl) ?_,
      determine_document.fills_of ?_ rfl (follows_rows formatOf_function) (fun _ _ => rfl) ?_⟩
    all_goals simp [documentParts]
  blank := by simp [documentParts, documentFormat, Document.empty]

/-- **The reader of a document follows the form of a document.** -/
theorem follows_document : Follows (record documentFormat) .document :=
  follows_record formatOf_document

end ApiBindings.Document
