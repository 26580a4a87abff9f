import ApiBindings.Proofs.DocumentReading

/-!
# Every value of a form has a text

A form is expressible when each value has a JSON value that stands for it and that can be written.  The
form of documents is, because texts can hold every character, integers have plain digits, and a record
can be written as an object with all its fields.
-/

namespace ApiBindings.Document

set_option autoImplicit false

variable {α ρ : Type}

/-- Every value can be written in the form. -/
def Form.Expressible (form : Form α) : Prop :=
  ∀ value, ∃ json text, form value json ∧ json.WrittenAs text

/-! ## Texts -/

theorem exists_isHexDigit {value : Nat} (small : value < 16) : ∃ digit, IsHexDigit value digit :=
  ⟨"0123456789abcdef".toList[value], .inl (List.getElem?_eq_getElem small)⟩

theorem exists_charWrittenAs (c : Char) : ∃ front, CharWrittenAs c front := by
  by_cases isQuote : c = '"'
  · exact ⟨['\\', '"'], .letter (by rw [isQuote]; decide)⟩
  by_cases isBackslash : c = '\\'
  · exact ⟨['\\', '\\'], .letter (by rw [isBackslash]; decide)⟩
  by_cases noControl : ' ' ≤ c
  · exact ⟨_, .plain isQuote isBackslash noControl⟩
  have small : c.toNat < 32 := Nat.not_le.1 noControl
  obtain ⟨first, isFirst⟩ := exists_isHexDigit (show c.toNat / 16 < 16 by omega)
  obtain ⟨second, isSecond⟩ := exists_isHexDigit (show c.toNat % 16 < 16 by omega)
  have unit := UnitWrittenAs.digits (.inl rfl : IsHexDigit 0 '0') (.inl rfl : IsHexDigit 0 '0') isFirst
    isSecond
  rw [show ((0 * 16 + 0) * 16 + c.toNat / 16) * 16 + c.toNat % 16 = c.toNat by omega] at unit
  exact ⟨_, .unit unit⟩

/-- A text without quotes, backslashes and control characters may be written as it is. -/
theorem textWrittenAs_plain {chars : List Char}
    (plain : ∀ c ∈ chars, c ≠ '"' ∧ c ≠ '\\' ∧ ' ' ≤ c) : TextWrittenAs chars (chars ++ ['"']) := by
  induction chars with
  | nil => exact .close
  | cons c chars ih =>
    obtain ⟨⟨noQuote, noBackslash, noControl⟩, plain⟩ := List.forall_mem_cons.1 plain
    exact @TextWrittenAs.char c chars [c] _ (.plain noQuote noBackslash noControl) (ih plain)

theorem exists_textWrittenAs (chars : List Char) : ∃ body, TextWrittenAs chars body := by
  induction chars with
  | nil => exact ⟨_, .close⟩
  | cons c chars ih =>
    obtain ⟨front, written⟩ := exists_charWrittenAs c
    obtain ⟨tail, more⟩ := ih
    exact ⟨_, .char written more⟩

theorem expressible_text : Form.text.Expressible := fun value =>
  let ⟨_, written⟩ := exists_textWrittenAs value.toList
  ⟨_, _, rfl, .text written⟩

/-! ## Integers and booleans -/

theorem decimal_concat (digits : List Char) (digit : Char) :
    decimal (digits ++ [digit]) = 10 * decimal digits + (digit.toNat - '0'.toNat) := by
  rw [decimal, List.foldl_append]
  rfl

theorem exists_whole (n : Nat) : ∃ whole, IsWhole whole ∧ decimal whole = n := by
  have single : ∀ n < 10, IsWhole [n.digitChar] ∧ decimal [n.digitChar] = n := by decide
  induction n using Nat.strongRecOn with
  | ind n ih =>
    by_cases small : n < 10
    · exact ⟨_, single n small⟩
    obtain ⟨whole, ⟨⟨nonempty, isDigit⟩, zero⟩, value⟩ := ih (n / 10) (by omega)
    obtain ⟨⟨⟨-, last⟩, -⟩, last_value⟩ := single (n % 10) (by omega)
    refine ⟨whole ++ [(n % 10).digitChar], ⟨⟨by simp, ?_⟩, ?_⟩, ?_⟩
    · rw [List.forall_mem_append]
      exact ⟨isDigit, last⟩
    · intro first
      rw [List.head?_append_of_ne_nil _ nonempty] at first
      rw [zero first] at value
      change 0 = _ at value
      omega
    · rw [decimal_concat, value]
      change 10 * 0 + ((n % 10).digitChar.toNat - '0'.toNat) = n % 10 at last_value
      omega

theorem exists_integer (n : Int) :
    ∃ json text, Json.integer? json = some n ∧ json.WrittenAs text := by
  obtain ⟨whole, isWhole, value⟩ := exists_whole n.natAbs
  by_cases negative : n < 0
  · refine ⟨.number true whole [], _, ?_, .number isWhole .absent .absent⟩
    rw [Json.integer?, if_neg (by omega), value]
    exact congrArg some (by omega)
  · refine ⟨.number false whole [], _, ?_, .number isWhole .absent .absent⟩
    rw [Json.integer?, value]
    exact congrArg some (by omega)

theorem expressible_u8 : Form.u8.Expressible := fun value => exists_integer value.toNat

theorem expressible_u32 : Form.u32.Expressible := fun value => exists_integer value.toNat

theorem expressible_i64 : Form.i64.Expressible := fun value => exists_integer value.toInt

theorem expressible_boolean : Form.boolean.Expressible
  | true => ⟨_, _, rfl, .isTrue⟩
  | false => ⟨_, _, rfl, .isFalse⟩

/-! ## Compound forms -/

theorem expressible_nullable {form : Form α} (expressible : form.Expressible) :
    (Form.nullable form).Expressible
  | none => ⟨_, _, rfl, .null⟩
  | some value => expressible value

theorem expressible_variant {spellings : α → List String} (spelled : ∀ value, spellings value ≠ []) :
    (Form.variant spellings).Expressible := by
  intro value
  obtain ⟨spelling, mem⟩ := List.exists_mem_of_ne_nil _ (spelled value)
  obtain ⟨body, written⟩ := exists_textWrittenAs spelling.toList
  exact ⟨_, _, ⟨spelling, mem, .inl rfl⟩, .text written⟩

theorem exists_separator (isFirst : Bool) : ∃ front, Separator isFirst front :=
  match isFirst with
  | true => ⟨[], .first (by decide)⟩
  | false => ⟨[','], @Separator.later [] [] (by decide) (by decide)⟩

theorem exists_itemsWrittenAs {form : Form α} (expressible : form.Expressible) (values : List α)
    (isFirst : Bool) :
    ∃ items body, List.Forall₂ form values items ∧ ItemsWrittenAs isFirst items body := by
  induction values generalizing isFirst with
  | nil => exact ⟨_, _, .nil, @ItemsWrittenAs.close _ [] (by decide)⟩
  | cons value values ih =>
    obtain ⟨json, text, meant, written⟩ := expressible value
    obtain ⟨items, body, all, more⟩ := ih false
    obtain ⟨front, separator⟩ := exists_separator isFirst
    exact ⟨_, _, .cons meant all, .item separator written more⟩

theorem expressible_sequence {form : Form α} (expressible : form.Expressible) :
    (Form.sequence form).Expressible := fun values =>
  let ⟨items, _, all, written⟩ := exists_itemsWrittenAs expressible values true
  ⟨_, _, ⟨items, rfl, all⟩, .array written⟩

theorem exists_membersWrittenAs {parts : List (Part ρ)}
    (expressible : ∀ part ∈ parts, part.form.Expressible) (record : ρ) (isFirst : Bool) :
    ∃ members body,
      List.Forall₂ (fun (member : String × Json) part =>
        part.key = member.1 ∧ part.form (part.get record) member.2) members parts ∧
      MembersWrittenAs isFirst members body := by
  induction parts generalizing isFirst with
  | nil => exact ⟨_, _, .nil, @MembersWrittenAs.close _ [] (by decide)⟩
  | cons part parts ih =>
    rw [List.forall_mem_cons] at expressible
    obtain ⟨json, text, meant, written⟩ := expressible.1 (part.get record)
    obtain ⟨keyText, keyWritten⟩ := exists_textWrittenAs part.key.toList
    obtain ⟨members, body, all, more⟩ := ih expressible.2 false
    obtain ⟨front, separator⟩ := exists_separator isFirst
    have blank : Blanks [] := by decide
    exact ⟨(part.key, json) :: members, _, .cons ⟨rfl, meant⟩ all,
      .member separator keyWritten blank blank written more⟩

theorem expressible_record {parts : List (Part ρ)} (determine : Determine parts)
    (expressible : ∀ part ∈ parts, part.form.Expressible) : (Form.record parts).Expressible := by
  intro record
  obtain ⟨members, body, all, written⟩ := exists_membersWrittenAs expressible record true
  have keys : members.map (·.1) = parts.map (·.key) := by
    rw [← List.forall₂_eq_eq_eq, List.forall₂_map_left_iff, List.forall₂_map_right_iff]
    exact all.imp fun _ _ named => named.1.symm
  refine ⟨.object members, _, ⟨?_, ?_, ?_⟩, .object written⟩
  · rw [keys]
    exact determine.distinct
  · exact fun member mem => exists_of_forall₂ all mem
  · intro part mem unwritten
    rw [keys] at unwritten
    exact absurd (List.mem_map_of_mem mem) unwritten

/-! ## Documents -/

theorem expressible_scalarType : (Form.variant scalarSpellings).Expressible :=
  expressible_variant (by rintro ⟨⟩ <;> exact List.cons_ne_nil _ _)

theorem expressible_enumKind : (Form.variant kindSpellings).Expressible :=
  expressible_variant (by rintro ⟨⟩ <;> exact List.cons_ne_nil _ _)

theorem expressible_enumerant : (Form.record enumerantParts).Expressible :=
  expressible_record determine_enumerant
    (by simp [enumerantParts, expressible_text, expressible_i64])

theorem expressible_param : (Form.record paramParts).Expressible :=
  expressible_record determine_param (by simp [paramParts, expressible_text])

theorem expressible_member : (Form.record memberParts).Expressible :=
  expressible_record determine_member (by simp [memberParts, expressible_text, expressible_u32])

theorem expressible_constant : (Form.record constantParts).Expressible :=
  expressible_record determine_constant (by
    simp [constantParts, expressible_text, expressible_nullable, expressible_scalarType])

theorem expressible_enum : (Form.record enumParts).Expressible :=
  expressible_record determine_enum (by
    simp [enumParts, expressible_text, expressible_enumKind, expressible_nullable, expressible_u8,
      expressible_sequence, expressible_enumerant])

theorem expressible_aggregate : (Form.record aggregateParts).Expressible :=
  expressible_record determine_aggregate (by
    simp [aggregateParts, expressible_text, expressible_sequence, expressible_member])

theorem expressible_handle : (Form.record handleParts).Expressible :=
  expressible_record determine_handle (by simp [handleParts, expressible_text, expressible_boolean])

theorem expressible_typedef : (Form.record typedefParts).Expressible :=
  expressible_record determine_typedef (by simp [typedefParts, expressible_text])

theorem expressible_function : (Form.record functionParts).Expressible :=
  expressible_record determine_function (by
    simp [functionParts, expressible_text, expressible_sequence, expressible_param,
      expressible_nullable])

theorem expressible_document : Form.document.Expressible :=
  expressible_record determine_document (by
    simp [documentParts, expressible_sequence, expressible_constant, expressible_enum,
      expressible_aggregate, expressible_handle, expressible_typedef, expressible_function])

end ApiBindings.Document
