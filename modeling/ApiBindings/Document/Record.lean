import ApiBindings.Document.Scalar

/-!
# Sequences, records and named variants

Readers for the compound values of a document.  A record has named fields and is written in one of two
ways: as an object with its fields in any order, or as a sequence with its fields in the order of their
declaration.  A `RecordFormat` states the fields once and both ways follow it: an unknown or repeated
field is refused as soon as its key is read, and a missing required field at the end of the record.
-/

namespace ApiBindings.Document

set_option autoImplicit false

/-! ## Formats -/

/-- A field of a record. -/
structure Field (ρ : Type) where
  key : String
  /-- A required field has no default. -/
  required : Bool
  /-- Reads the field's value and stores it in the record under construction. -/
  read : ρ → Reader ρ

/-- A field whose value is read by `reader` and stored by `store`. -/
def Field.of {α ρ : Type} (key : String) (required : Bool) (reader : Reader α)
    (store : ρ → α → ρ) : Field ρ :=
  ⟨key, required, fun draft => return store draft (← reader)⟩

/-- How a record is written. -/
structure RecordFormat (ρ : Type) where
  /-- The record's name in messages. -/
  name : String
  /-- The record with every field at its default. -/
  blank : ρ
  /-- The fields in the order of their declaration. -/
  fields : List (Field ρ)

variable {α ρ : Type}

/-- The keys of a format. -/
def RecordFormat.keys (format : RecordFormat ρ) : List String := format.fields.map (·.key)

namespace Reader

/-! ## Separators -/

/-- A shorter text, at its first character that is no blank. -/
structure Shorter (text : List Char) where
  rest : List Char
  lt : rest.length < text.length

theorem length_spaces_le (text : List Char) : (text.dropWhile isSpace).length ≤ text.length :=
  (List.dropWhile_sublist _).length_le

/-- The text behind its first character and the blanks that follow. -/
def behind (c : Char) (rest : List Char) : Shorter (c :: rest) :=
  ⟨rest.dropWhile isSpace, Nat.lt_succ_of_le (length_spaces_le rest)⟩

/-- What stands between two elements of a sequence: a comma with an element behind it, or the end of the
sequence, which is not taken. -/
def nextElement : (text : List Char) → Except Fault (Option (Shorter text))
  | [] => .error ⟨.endInList, 0⟩
  | c :: rest =>
    if c = ']' then .ok none
    else if c = ',' then
      let next := behind c rest
      match next.rest with
      | [] => .error ⟨.endInValue, 0⟩
      | first :: _ =>
        if first = ']' then .error ⟨.trailingComma, byteLength next.rest - 1⟩ else .ok (some next)
    else .error ⟨.expectedListEnd, byteLength (c :: rest) - 1⟩

/-! ## Sequences -/

/-- The elements from a separator on, up to the end of the sequence. -/
def laterElements (element : Reader α) (read : List α) : Reader (List α) := fun text =>
  match _ : nextElement (text.dropWhile isSpace) with
  | .error fault => .error fault
  | .ok none =>
    .ok ⟨read.reverse, (text.dropWhile isSpace).drop 1, by
      have := length_spaces_le text
      simp only [List.length_drop]
      omega⟩
  | .ok (some next) =>
    match element next.rest with
    | .error fault => .error fault
    | .ok taken =>
      have shorter : taken.rest.length < text.length :=
        Nat.lt_of_le_of_lt taken.le (Nat.lt_of_lt_of_le next.lt (length_spaces_le text))
      (laterElements element (taken.value :: read) taken.rest).map (·.weaken (Nat.le_of_lt shorter))
  termination_by text => text.length

section LaterElements

variable {element : Reader α} {read values : List α} {text left : List Char}

theorem reads_laterElements_end (ended : nextElement (text.dropWhile isSpace) = .ok none) :
    Reads (laterElements element read) text values left ↔
      values = read.reverse ∧ left = (text.dropWhile isSpace).drop 1 := by
  refine Reads.iff_eq ⟨?_, ?_⟩
  · exact Nat.le_trans (List.drop_sublist ..).length_le (length_spaces_le text)
  · rw [laterElements]
    split
    · next fault => cases ended.symm.trans fault
    · rfl
    · next found => cases ended.symm.trans found

theorem reads_laterElements_next {next : Shorter (text.dropWhile isSpace)}
    (found : nextElement (text.dropWhile isSpace) = .ok (some next)) :
    Reads (laterElements element read) text values left ↔
      ∃ value middle, Reads element next.rest value middle ∧
        Reads (laterElements element (value :: read)) middle values left := by
  have shorter : next.rest.length ≤ text.length :=
    Nat.le_of_lt (Nat.lt_of_lt_of_le next.lt (length_spaces_le text))
  have step : laterElements element read text =
      ((element >>= fun value => laterElements element (value :: read)) next.rest).map
        (·.weaken shorter) := by
    refine .trans ?_ (map_bind_eq element (fun value => laterElements element (value :: read)) shorter).symm
    rw [laterElements]
    split
    · next fault => cases found.symm.trans fault
    · next ended => cases found.symm.trans ended
    · next next' found' =>
      cases found.symm.trans found'
      cases element next.rest <;> rfl
  change (∃ le, laterElements element read text = .ok ⟨values, left, le⟩) ↔ _
  rw [step]
  exact exists_map_weaken_eq_ok_iff.trans reads_bind_iff

end LaterElements

/-- The elements of a sequence, behind its opening bracket. -/
def elements (element : Reader α) : Reader (List α) := do
  match ← peek with
  | none => failNext .endInList
  | some ']' =>
    skip 1
    return []
  | some _ =>
    let first ← element
    laterElements element [first]

/-- A sequence. -/
def sequence (element : Reader α) : Reader (List α) := do
  if (← peek) = some '[' then
    skip 1
    elements element
  else refuse .sequence

/-! ## Records as objects -/

/-- Refuses a record for a fault of its keys.  A closing brace that comes next is still taken. -/
def refuseRecord (cause : Cause) : Reader α := do
  if (← peek) = some '\x7d' then skip 1
  fail cause

/-- The first required field that was not read. -/
def missing? (format : RecordFormat ρ) (seen : List String) : Option String :=
  (format.fields.find? fun field => field.required && !seen.contains field.key).map (·.key)

/-- Whether a key, or the end of the object, stands at the front, which is free of blanks.  Every key
but the first has a comma in front.  The key's opening quote is taken with it. -/
def nextKey (isFirst : Bool) : (text : List Char) → Except Fault (Option (Shorter text))
  | [] => .error ⟨.endInObject, 0⟩
  | c :: rest =>
    if c = '\x7d' then .ok none
    else if isFirst then
      if c = '"' then .ok (some ⟨rest, Nat.lt_succ_self _⟩)
      else .error ⟨.keyNotText, byteLength (c :: rest) - 1⟩
    else if c = ',' then
      match h : (behind c rest).rest with
      | [] => .error ⟨.endInValue, 0⟩
      | first :: more =>
        if first = '"' then
          .ok (some ⟨more, by have := (behind c rest).lt; rw [h] at this; exact Nat.lt_of_succ_lt this⟩)
        else if first = '\x7d' then .error ⟨.trailingComma, byteLength (first :: more) - 1⟩
        else .error ⟨.keyNotText, byteLength (first :: more) - 1⟩
    else .error ⟨.expectedObjectEnd, byteLength (c :: rest) - 1⟩

/-- The colon behind a key. -/
def colon : Reader Unit := do
  match ← peek with
  | none => failNext .endInObject
  | some c => if c = ':' then skip 1 else failNext .expectedColon

/-- One field of an object, behind the opening quote of its key: the key and the updated record. -/
def member (format : RecordFormat ρ) (seen : List String) (draft : ρ) : Reader (String × ρ) := do
  let key ← textBody []
  match format.fields.find? (·.key == key) with
  | none => refuseRecord (.unknownField key format.keys)
  | some field =>
    if seen.contains key then refuseRecord (.duplicateField key)
    else
      colon
      return (key, ← field.read draft)

/-- The fields of an object up to its end, behind those already seen. -/
def members (format : RecordFormat ρ) (isFirst : Bool) (seen : List String) (draft : ρ) :
    Reader ρ := fun text =>
  match _ : nextKey isFirst (text.dropWhile isSpace) with
  | .error fault => .error fault
  | .ok none =>
    match missing? format seen with
    | some key => refuseRecord (.missingField key) text
    | none =>
      .ok ⟨draft, (text.dropWhile isSpace).drop 1, by
        have := length_spaces_le text
        simp only [List.length_drop]
        omega⟩
  | .ok (some next) =>
    match member format seen draft next.rest with
    | .error fault => .error fault
    | .ok taken =>
      have shorter : taken.rest.length < text.length :=
        Nat.lt_of_le_of_lt taken.le (Nat.lt_of_lt_of_le next.lt (length_spaces_le text))
      (members format false (taken.value.1 :: seen) taken.value.2 taken.rest).map
        (·.weaken (Nat.le_of_lt shorter))
  termination_by text => text.length

theorem not_reads_refuseRecord {cause : Cause} {value : α} {text left : List Char} :
    ¬ Reads (refuseRecord cause) text value left := by
  rw [refuseRecord, reads_peek_bind_iff]
  split <;> simp

section Members

variable {format : RecordFormat ρ} {isFirst : Bool} {seen : List String} {draft record : ρ}
  {text left : List Char}

theorem reads_members_end (ended : nextKey isFirst (text.dropWhile isSpace) = .ok none) :
    Reads (members format isFirst seen draft) text record left ↔
      missing? format seen = none ∧ record = draft ∧ left = (text.dropWhile isSpace).drop 1 := by
  have step : ∃ le, members format isFirst seen draft text =
      match missing? format seen with
      | some key => refuseRecord (.missingField key) text
      | none => .ok ⟨draft, (text.dropWhile isSpace).drop 1, le⟩ := by
    refine ⟨Nat.le_trans (List.drop_sublist ..).length_le (length_spaces_le text), ?_⟩
    rw [members]
    split
    · next fault => cases ended.symm.trans fault
    · cases missing? format seen <;> rfl
    · next found => cases ended.symm.trans found
  obtain ⟨le, step⟩ := step
  cases missing : missing? format seen with
  | none =>
    rw [missing] at step
    have taken : Reads (members format isFirst seen draft) text draft _ := ⟨le, step⟩
    simpa using taken.iff_eq
  | some key =>
    rw [missing] at step
    refine iff_of_false ?_ (by simp)
    rintro ⟨_, outcome⟩
    exact not_reads_refuseRecord ⟨_, step.symm.trans outcome⟩

theorem reads_members_next {next : Shorter (text.dropWhile isSpace)}
    (found : nextKey isFirst (text.dropWhile isSpace) = .ok (some next)) :
    Reads (members format isFirst seen draft) text record left ↔
      ∃ key draft' middle, Reads (member format seen draft) next.rest (key, draft') middle ∧
        Reads (members format false (key :: seen) draft') middle record left := by
  have shorter : next.rest.length ≤ text.length :=
    Nat.le_of_lt (Nat.lt_of_lt_of_le next.lt (length_spaces_le text))
  let later (entry : String × ρ) : Reader ρ := members format false (entry.1 :: seen) entry.2
  have step : members format isFirst seen draft text =
      ((member format seen draft >>= later) next.rest).map (·.weaken shorter) := by
    refine .trans ?_ (map_bind_eq (member format seen draft) later shorter).symm
    rw [members]
    split
    · next fault => cases found.symm.trans fault
    · next ended => cases found.symm.trans ended
    · next next' found' =>
      cases found.symm.trans found'
      cases member format seen draft next.rest <;> rfl
  change (∃ le, members format isFirst seen draft text = .ok ⟨record, left, le⟩) ↔ _
  rw [step]
  exact exists_map_weaken_eq_ok_iff.trans (reads_bind_iff.trans Prod.exists)

end Members

/-! ## Records as sequences -/

/-- Whether another element stands at the front, which is free of blanks; if so, the separator in front
of it is taken. -/
def separator : Reader Bool := fun text =>
  match nextElement text with
  | .error fault => .error fault
  | .ok none => Reader.pure false text
  | .ok (some next) => .ok ⟨true, next.rest, Nat.le_of_lt next.lt⟩

/-- Whether the sequence goes on with another element. -/
def hasElement (isFirst : Bool) : Reader Bool := do
  match ← peek with
  | none => failNext .endInList
  | some c => if isFirst then return c ≠ ']' else separator

/-- The fields of a record in the order of their declaration, from the field at `index` on.  Fields
with a default may be absent at the end. -/
def positions (format : RecordFormat ρ) (index : Nat) (draft : ρ) : List (Field ρ) → Reader ρ
  | [] => return draft
  | field :: fields => do
    if ← hasElement (index == 0) then positions format (index + 1) (← field.read draft) fields
    else if field.required then
      skip 1
      fail (.wrongLength index format.name format.fields.length)
    else positions format (index + 1) draft fields

/-- The end of a record written as a sequence. -/
def sequenceEnd : Reader Unit := do
  match ← peek with
  | some ']' => skip 1
  | some ',' =>
    skip 1
    failNext (if (← peek) = some ']' then .trailingComma else .trailingCharacters)
  | some _ => failNext .trailingCharacters
  | none => failNext .endInList

/-- A record, in either way of writing. -/
def record (format : RecordFormat ρ) : Reader ρ := do
  match ← peek with
  | some '\x7b' =>
    skip 1
    members format true [] format.blank
  | some '[' =>
    skip 1
    let read ← positions format 0 format.blank format.fields
    sequenceEnd
    return read
  | _ => refuse (.record format.name)

/-! ## Named variants -/

/-- A variant by its name, behind the opening quote. -/
def variantName (names : List (String × α)) : Reader α := do
  let name ← textBody []
  match names.lookup name with
  | some variant => return variant
  | none => fail (.unknownVariant name (names.map (·.1)))

/-- What stands behind the name of a variant that is written as an object. -/
def variantEnd (named : α) : Reader α := do
  colon
  unit
  match ← peek with
  | some '\x7d' =>
    skip 1
    return named
  | some _ => fail .expectedValue
  | none => fail .endInObject

/-- A variant written as an object, behind the opening brace. -/
def variantObject (names : List (String × α)) : Reader α := do
  match ← peek with
  | some '"' =>
    skip 1
    variantEnd (← variantName names)
  | some '\x7d' => failNext .expectedValue
  | some _ => failNext .keyNotText
  | none => failNext .endInObject

/-- A variant: its name, or an object that maps its name to null. -/
def variant (names : List (String × α)) : Reader α := do
  match ← peek with
  | some '"' =>
    skip 1
    variantName names
  | some '\x7b' =>
    skip 1
    variantObject names
  | some _ => failNext .expectedValue
  | none => failNext .endInValue

end Reader

end ApiBindings.Document
