import Mathlib.Data.List.Forall2
import ApiBindings.Document.Record
import ApiBindings.Proofs.DocumentForms
import ApiBindings.Proofs.NumberReading
import ApiBindings.Proofs.TextReading

/-!
# Readers that follow a form

A reader follows a form when, on every text of a JSON value, it reads exactly what the value stands for
in the form: it takes the text and nothing behind it, and stops at a fault if the value is not in the
form.  Both directions matter, the second because a document with a defect must not be read as another
one.  This module shows it for the readers of scalars, variants and sequences.
-/

namespace ApiBindings.Document

set_option autoImplicit false

/-- The reader reads exactly the values in the form, from every text of theirs. -/
def Follows {α : Type} (reader : Reader α) (form : Form α) : Prop :=
  ∀ ⦃json : Json⦄ ⦃text before rest left : List Char⦄ ⦃value : α⦄,
    json.WrittenAs text → Blanks before → Closed rest →
    (reader.Reads (before ++ (text ++ rest)) value left ↔ left = rest ∧ form value json)

/-- Without blanks in front. -/
theorem Follows.reads_iff {α : Type} {reader : Reader α} {form : Form α} {json : Json}
    {text rest left : List Char} {value : α} (follows : Follows reader form)
    (written : json.WrittenAs text) (closed : Closed rest) :
    reader.Reads (text ++ rest) value left ↔ left = rest ∧ form value json :=
  @follows json text [] rest left value written (by decide) closed

/-! ## How a value starts -/

/-- The characters that the texts of a value start with. -/
inductive Json.StartsWith : Json → Char → Prop where
  | null : Json.StartsWith .null 'n'
  | isTrue : Json.StartsWith (.boolean true) 't'
  | isFalse : Json.StartsWith (.boolean false) 'f'
  | number {negative : Bool} {whole tail : List Char} {c : Char} :
      c = '-' ∨ c.isDigit → Json.StartsWith (.number negative whole tail) c
  | text {value : String} : Json.StartsWith (.text value) '"'
  | array {items : List Json} : Json.StartsWith (.array items) '['
  | object {members : List (String × Json)} : Json.StartsWith (.object members) '\x7b'

theorem Json.WrittenAs.starts {json : Json} {text : List Char} (written : json.WrittenAs text) :
    ∃ c tail, text = c :: tail ∧ json.StartsWith c := by
  cases written with
  | null => exact ⟨_, _, rfl, .null⟩
  | isTrue => exact ⟨_, _, rfl, .isTrue⟩
  | isFalse => exact ⟨_, _, rfl, .isFalse⟩
  | @number negative whole _ _ isWhole =>
    obtain ⟨⟨nonempty, isDigit⟩, -⟩ := isWhole
    obtain ⟨c, run, rfl⟩ := List.exists_cons_of_ne_nil nonempty
    cases negative with
    | true => exact ⟨_, _, rfl, .number (.inl rfl)⟩
    | false => exact ⟨_, _, rfl, .number (.inr (isDigit c List.mem_cons_self))⟩
  | text => exact ⟨_, _, rfl, .text⟩
  | array => exact ⟨_, _, rfl, .array⟩
  | object => exact ⟨_, _, rfl, .object⟩

/-! Of all values, only those of one kind start with a quote, a bracket, a brace or an `n`. -/

section Starts

variable {json : Json} {tail : List Char}

theorem Json.WrittenAs.text_of_quote (written : json.WrittenAs ('"' :: tail)) :
    ∃ value, json = .text value ∧ TextWrittenAs value.toList tail := by
  obtain ⟨c, _, same, starts⟩ := written.starts
  cases same
  cases starts with
  | number mark => exact absurd mark (by decide)
  | text =>
    cases written with
    | text body => exact ⟨_, rfl, body⟩

theorem Json.WrittenAs.array_of_bracket (written : json.WrittenAs ('[' :: tail)) :
    ∃ items, json = .array items ∧ ItemsWrittenAs true items tail := by
  obtain ⟨c, _, same, starts⟩ := written.starts
  cases same
  cases starts with
  | number mark => exact absurd mark (by decide)
  | array =>
    cases written with
    | array body => exact ⟨_, rfl, body⟩

theorem Json.WrittenAs.object_of_brace (written : json.WrittenAs ('\x7b' :: tail)) :
    ∃ members, json = .object members ∧ MembersWrittenAs true members tail := by
  obtain ⟨c, _, same, starts⟩ := written.starts
  cases same
  cases starts with
  | number mark => exact absurd mark (by decide)
  | object =>
    cases written with
    | object body => exact ⟨_, rfl, body⟩

theorem Json.WrittenAs.null_of_n (written : json.WrittenAs ('n' :: tail)) :
    json = .null ∧ tail = ['u', 'l', 'l'] := by
  obtain ⟨c, _, same, starts⟩ := written.starts
  cases same
  cases starts with
  | number mark => exact absurd mark (by decide)
  | null =>
    cases written
    exact ⟨rfl, rfl⟩

end Starts

namespace Reader

variable {α : Type} {json : Json} {text before rest left : List Char}

theorem isSpace_iff {c : Char} : isSpace c ↔ c ∈ [' ', '\t', '\n', '\r'] := by
  simp [isSpace, or_assoc]

theorem dropWhile_blanks {gap : List Char} (blank : Blanks gap) (rest : List Char) :
    (gap ++ rest).dropWhile isSpace = rest.dropWhile isSpace :=
  List.dropWhile_append_of_pos fun c mem => isSpace_iff.2 (blank c mem)

theorem not_isSpace_of_startsWith {c : Char} (starts : json.StartsWith c) : ¬ isSpace c := by
  cases starts with
  | number mark =>
    have apart : ∀ c ∈ [' ', '\t', '\n', '\r'], ¬ (c = '-' ∨ c.isDigit) := by simp
    exact fun blank => apart c (isSpace_iff.1 blank) mark
  | _ => decide

/-- A value is looked at behind the blanks in front of it. -/
theorem reads_peek_value_iff {next : Option Char → Reader α} {value : α}
    (written : json.WrittenAs text) (blank : Blanks before) :
    Reads (peek >>= next) (before ++ (text ++ rest)) value left ↔
      Reads (next text.head?) (text ++ rest) value left := by
  obtain ⟨c, tail, rfl, starts⟩ := written.starts
  rw [reads_peek_bind_iff, dropWhile_blanks blank, List.cons_append,
    List.dropWhile_cons_of_neg (not_isSpace_of_startsWith starts)]
  rfl

/-- A token is looked at behind the blanks in front of it. -/
theorem reads_peek_token_iff {next : Option Char → Reader α} {gap : List Char} {c : Char} {value : α}
    (blank : Blanks gap) (token : ¬ isSpace c) :
    Reads (peek >>= next) (gap ++ c :: rest) value left ↔
      Reads (next (some c)) (c :: rest) value left := by
  rw [reads_peek_bind_iff, dropWhile_blanks blank, List.dropWhile_cons_of_neg token]
  rfl

/-! ## Refusals and words -/

theorem not_reads_refuse {wanted : Wanted} {value : α} : ¬ Reads (refuse wanted) text value left := by
  rw [refuse, reads_look_bind_iff]
  split
  case h_7 =>
    split <;> simp [reads_bind_iff]
  all_goals simp [reads_bind_iff]

theorem reads_wordTail (letters : List Char) : Reads (wordTail letters) (letters ++ rest) () rest := by
  induction letters with
  | nil => exact reads_pure _ _
  | cons letter letters ih =>
    rw [wordTail, reads_look_bind_iff]
    simpa using ih

theorem reads_word_iff {c : Char} {letters : List Char} {next : Reader α} {value : α} :
    Reads (do skip 1; wordTail letters; next) (c :: letters ++ rest) value left ↔
      Reads next rest value left := by
  rw [reads_skip_bind_iff]
  exact (reads_wordTail letters).bind_iff

/-! ## Scalars -/

theorem follows_text : Follows Reader.text .text := by
  intro json text before rest left value written blank _
  rw [Reader.text, reads_peek_value_iff written blank]
  obtain ⟨c, tail, rfl, starts⟩ := written.starts
  by_cases isText : c = '"'
  · subst isText
    obtain ⟨content, rfl, body⟩ := written.text_of_quote
    rw [List.head?_cons, if_pos rfl, reads_skip_bind_iff]
    refine (reads_text body).iff_eq.trans ?_
    simp [Form.text, and_comm, eq_comm]
  · rw [List.head?_cons, if_neg (by simpa using isText)]
    refine iff_of_false not_reads_refuse ?_
    rintro ⟨-, rfl⟩
    cases starts
    exact isText rfl

theorem follows_boolean : Follows Reader.boolean .boolean := by
  intro json text before rest left value written blank _
  rw [Reader.boolean, reads_peek_value_iff written blank]
  obtain ⟨c, tail, rfl, starts⟩ := written.starts
  rw [List.head?_cons]
  split
  · next isTrue =>
    cases isTrue
    cases starts with
    | number mark => exact absurd mark (by decide)
    | isTrue =>
      cases written
      rw [reads_word_iff, reads_pure_iff]
      simp [Form.boolean, and_comm, eq_comm]
  · next isFalse =>
    cases isFalse
    cases starts with
    | number mark => exact absurd mark (by decide)
    | isFalse =>
      cases written
      rw [reads_word_iff, reads_pure_iff]
      simp [Form.boolean, and_comm, eq_comm]
  · next noTrue noFalse =>
    refine iff_of_false not_reads_refuse ?_
    rintro ⟨-, rfl⟩
    cases starts
    · exact noTrue rfl
    · exact noFalse rfl

theorem reads_unit_iff (written : json.WrittenAs text) (blank : Blanks before) :
    Reads Reader.unit (before ++ (text ++ rest)) () left ↔ left = rest ∧ json = .null := by
  rw [Reader.unit, reads_peek_value_iff written blank]
  obtain ⟨c, tail, rfl, starts⟩ := written.starts
  by_cases isNull : c = 'n'
  · subst isNull
    obtain ⟨rfl, rfl⟩ := written.null_of_n
    rw [List.head?_cons, if_pos rfl, reads_skip_bind_iff]
    exact (reads_wordTail ['u', 'l', 'l']).iff_eq.trans (by simp)
  · rw [List.head?_cons, if_neg (by simpa using isNull)]
    refine iff_of_false not_reads_refuse ?_
    rintro ⟨-, rfl⟩
    cases starts
    exact isNull rfl

/-- Null stands for no value, so no value may be written as null. -/
theorem follows_nullable {reader : Reader α} {form : Form α} (follows : Follows reader form)
    (never_null : ∀ value, ¬ form value .null) :
    Follows (Reader.nullable reader) (.nullable form) := by
  intro json text before rest left value written blank closed
  rw [Reader.nullable, reads_peek_value_iff written blank]
  obtain ⟨c, tail, rfl, starts⟩ := written.starts
  by_cases isNull : c = 'n'
  · subst isNull
    obtain ⟨rfl, rfl⟩ := written.null_of_n
    rw [List.head?_cons, if_pos rfl, reads_word_iff, reads_pure_iff]
    cases value with
    | none => simp [Form.nullable]
    | some value => simp [Form.nullable, never_null]
  · rw [List.head?_cons, if_neg (by simpa using isNull), reads_bind_iff]
    constructor
    · rintro ⟨inner, middle, read, stored⟩
      obtain ⟨rfl, rfl⟩ := reads_pure_iff.1 stored
      exact (follows.reads_iff written closed).1 read
    · rintro ⟨rfl, meant⟩
      cases value with
      | none =>
        cases meant
        cases starts
        exact absurd rfl isNull
      | some value => exact ⟨_, _, (follows.reads_iff written closed).2 ⟨rfl, meant⟩, reads_pure _ _⟩

/-! ## Integers -/

/-- A number is read as an integer if its value is one between the bounds, and refused otherwise. -/
theorem reads_integer_iff {wanted : Wanted} {least greatest n : Int} (least_fits : Fits64 least)
    (greatest_fits : Fits64 greatest) (written : json.WrittenAs text) (blank : Blanks before)
    (closed : Closed rest) :
    Reads (Reader.integer wanted least greatest) (before ++ (text ++ rest)) n left ↔
      left = rest ∧ json.integer? = some n ∧ least ≤ n ∧ n ≤ greatest := by
  rw [Reader.integer, reads_peek_value_iff written blank]
  obtain ⟨c, tail, text_eq, starts⟩ := written.starts
  have first : text.head? = some c := by rw [text_eq]; rfl
  simp only [first]
  by_cases isNumber : c = '-' ∨ c.isDigit
  · rw [if_pos (by simpa using isNumber), reads_bind_iff]
    cases starts with
    | number mark =>
      cases written with
      | number isWhole isFraction isExponent =>
        constructor
        · rintro ⟨found, middle, read, checked⟩
          cases found with
          -- A float is no integer, even if its value is one.
          | float value => exact absurd checked not_reads_fail
          | integer value =>
            obtain ⟨rfl, meant, -⟩ := (reads_number_iff isWhole isFraction isExponent closed).1 read
            dsimp only at checked
            split at checked
            · next within =>
              obtain ⟨rfl, rfl⟩ := reads_pure_iff.1 checked
              exact ⟨rfl, meant, by simpa using within⟩
            · exact absurd checked not_reads_fail
        · rintro ⟨rfl, meant, ge, le⟩
          refine ⟨.integer n, left, ?_, ?_⟩
          · exact (reads_number_iff isWhole isFraction isExponent closed).2
              ⟨rfl, meant, Int.le_trans least_fits.1 ge, Int.lt_of_le_of_lt le greatest_fits.2⟩
          · dsimp only
            rw [if_pos (by simp [ge, le])]
            exact reads_pure _ _
    | _ => exact absurd isNumber (by decide)
  · rw [if_neg (by simpa using isNumber)]
    refine iff_of_false not_reads_refuse ?_
    rintro ⟨-, value, -⟩
    cases starts with
    | number mark => exact isNumber mark
    | _ => cases value

/-- An integer of a type whose values are those between two bounds. -/
theorem follows_integer {wanted : Wanted} {least greatest : Int} {store : Int → α} {value : α → Int}
    (least_fits : Fits64 least) (greatest_fits : Fits64 greatest)
    (fits : ∀ a, least ≤ value a ∧ value a ≤ greatest) (store_value : ∀ a, store (value a) = a)
    (value_store : ∀ n, least ≤ n → n ≤ greatest → value (store n) = n) :
    Follows (do return store (← Reader.integer wanted least greatest))
      fun a json => json.integer? = some (value a) := by
  intro json text before rest left a written blank closed
  simp only [reads_bind_iff, reads_integer_iff least_fits greatest_fits written blank closed,
    reads_pure_iff]
  constructor
  · rintro ⟨n, _, ⟨rfl, meant, ge, le⟩, rfl, rfl⟩
    exact ⟨rfl, by rw [meant, value_store n ge le]⟩
  · rintro ⟨rfl, meant⟩
    exact ⟨_, _, ⟨rfl, meant, fits a⟩, (store_value a).symm, rfl⟩

theorem follows_u8 : Follows Reader.u8 .u8 := by
  refine follows_integer (by decide) (by decide) (fun a => ?_) (fun a => ?_) fun n ge le => ?_
  · have := a.toNat_lt
    exact ⟨by omega, by change _ ≤ (255 : Int); omega⟩
  · simp
  · change n ≤ (255 : Int) at le
    rw [UInt8.toNat_ofNat']
    omega

theorem follows_u32 : Follows Reader.u32 .u32 := by
  refine follows_integer (by decide) (by decide) (fun a => ?_) (fun a => ?_) fun n ge le => ?_
  · have := a.toNat_lt
    exact ⟨by omega, by change _ ≤ (4294967295 : Int); omega⟩
  · simp
  · change n ≤ (4294967295 : Int) at le
    rw [UInt32.toNat_ofNat']
    omega

theorem follows_i64 : Follows Reader.i64 .i64 :=
  follows_integer (by decide) (by decide) (fun a => ⟨a.le_toInt, a.toInt_le⟩)
    (fun _ => Int64.ofInt_toInt _) fun _ ge le => Int64.toInt_ofInt_of_le ge (Int.lt_of_le_sub_one le)

/-! ## Variants -/

theorem reads_colon {gap : List Char} (blank : Blanks gap) :
    Reads colon (gap ++ ':' :: rest) () rest := by
  rw [colon, reads_peek_token_iff blank (by decide)]
  exact reads_skip 1

section Variant

variable {names : List (String × α)} {spellings : α → List String}

theorem reads_variantName_iff {name : String} {body : List Char} {value : α}
    (written : TextWrittenAs name.toList body) :
    Reads (variantName names) (body ++ rest) value left ↔
      left = rest ∧ names.lookup name = some value := by
  rw [variantName, (reads_text written).bind_iff]
  cases found : names.lookup name with
  | none => simp
  | some variant => simp [and_comm, eq_comm]

/-- Behind the name of a variant stand null and the closing brace. -/
theorem reads_variantEnd_iff {inner : Json} {members : List (String × Json)}
    {gap next innerText tail : List Char} {named value : α} (blank : Blanks gap) (blank' : Blanks next)
    (written : inner.WrittenAs innerText) (more : MembersWrittenAs false members tail) :
    Reads (variantEnd named) (gap ++ ':' :: (next ++ (innerText ++ (tail ++ rest)))) value left ↔
      (left = rest ∧ value = named) ∧ inner = .null ∧ members = [] := by
  rw [variantEnd, (reads_colon blank).bind_iff, reads_bind_iff]
  simp only [reads_unit_iff written blank']
  constructor
  · rintro ⟨_, _, ⟨rfl, isNull⟩, closing⟩
    cases more with
    | close blank =>
      rw [List.append_assoc, List.singleton_append, reads_peek_token_iff blank (by decide)] at closing
      simpa [isNull, and_comm] using closing
    | member separator =>
      cases separator with
      | later blank =>
        rw [List.append_assoc, List.append_assoc, List.cons_append,
          reads_peek_token_iff blank (by decide)] at closing
        exact absurd closing not_reads_fail
  · rintro ⟨⟨rfl, rfl⟩, isNull, rfl⟩
    cases more with
    | close blank =>
      refine ⟨(), _, ⟨rfl, isNull⟩, ?_⟩
      rw [List.append_assoc, List.singleton_append, reads_peek_token_iff blank (by decide)]
      simp

/-- A variant written as an object has one member, which is null. -/
theorem reads_variantObject_iff {members : List (String × Json)} {value : α}
    (written : MembersWrittenAs true members text) :
    Reads (variantObject names) (text ++ rest) value left ↔
      left = rest ∧ ∃ name, members = [(name, .null)] ∧ names.lookup name = some value := by
  rw [variantObject]
  cases written with
  | close blank =>
    rw [List.append_assoc, List.singleton_append, reads_peek_token_iff blank (by decide)]
    simp
  | @member _ key inner _ _ _ _ _ _ _ separator keyWritten blank blank' written more =>
    cases separator with
    | first blank₀ =>
      simp only [List.append_assoc, List.cons_append]
      rw [reads_peek_token_iff blank₀ (by decide)]
      refine reads_skip_bind_iff.trans (reads_bind_iff.trans ?_)
      simp only [List.drop_one, List.tail_cons, reads_variantName_iff keyWritten]
      constructor
      · rintro ⟨named, _, ⟨rfl, found⟩, closing⟩
        obtain ⟨⟨rfl, rfl⟩, rfl, rfl⟩ := (reads_variantEnd_iff blank blank' written more).1 closing
        exact ⟨rfl, key, rfl, found⟩
      · rintro ⟨rfl, name, same, found⟩
        cases same
        exact ⟨value, _, ⟨rfl, found⟩,
          (reads_variantEnd_iff blank blank' written more).2 ⟨⟨rfl, rfl⟩, rfl, rfl⟩⟩

theorem follows_variant
    (known : ∀ name value, names.lookup name = some value ↔ name ∈ spellings value) :
    Follows (variant names) (.variant spellings) := by
  intro json text before rest left value written blank _
  rw [variant, reads_peek_value_iff written blank]
  obtain ⟨c, tail, rfl, starts⟩ := written.starts
  rw [List.head?_cons]
  split
  · next isText =>
    cases isText
    obtain ⟨name, rfl, body⟩ := written.text_of_quote
    refine reads_skip_bind_iff.trans ((reads_variantName_iff body).trans ?_)
    simp [Form.variant, known]
  · next isObject =>
    cases isObject
    obtain ⟨members, rfl, body⟩ := written.object_of_brace
    refine reads_skip_bind_iff.trans ((reads_variantObject_iff body).trans ?_)
    simp [Form.variant, known, and_comm]
  · next noText noObject same =>
    cases same
    refine iff_of_false not_reads_failNext ?_
    rintro ⟨-, spelling, -, rfl | rfl⟩ <;> cases starts
    · exact noText rfl
    · exact noObject rfl
  · next absent => cases absent

end Variant

/-! ## Sequences -/

/-- What follows an item of an array or a member of an object. -/
theorem closed_of_token {gap : List Char} {c : Char} (blank : Blanks gap)
    (token : c ∈ [',', ']', '\x7d']) : Closed (gap ++ c :: rest) := by
  cases gap with
  | nil =>
    rintro _ ⟨⟩
    exact List.mem_append_right [' ', '\t', '\n', '\r'] token
  | cons first gap =>
    rintro _ ⟨⟩
    exact List.mem_append_left [',', ']', '\x7d'] (blank first List.mem_cons_self)

theorem closed_of_separator {front : List Char} (separator : Separator false front) :
    Closed (front ++ rest) := by
  cases separator with
  | later blank =>
    rw [List.append_assoc]
    exact closed_of_token blank (by decide)

theorem closed_of_itemsWrittenAs {items : List Json} (written : ItemsWrittenAs false items text) :
    Closed (text ++ rest) := by
  cases written with
  | close blank =>
    rw [List.append_assoc]
    exact closed_of_token blank (by decide)
  | item separator =>
    rw [List.append_assoc]
    exact closed_of_separator separator

theorem ne_bracket_of_startsWith {c : Char} (starts : json.StartsWith c) : c ≠ ']' := by
  rintro rfl
  cases starts with
  | number mark => exact absurd mark (by decide)

/-- Behind a separator stands the next item. -/
theorem nextElement_separator {gap next tail : List Char} (blank : Blanks gap) (blank' : Blanks next)
    (written : json.WrittenAs text) :
    ∃ shorter, nextElement ((gap ++ ',' :: (next ++ (text ++ tail))).dropWhile isSpace) =
      .ok (some shorter) ∧ shorter.rest = text ++ tail := by
  obtain ⟨c, more, rfl, starts⟩ := written.starts
  have front : (next ++ (c :: more ++ tail)).dropWhile isSpace = c :: more ++ tail := by
    rw [dropWhile_blanks blank', List.cons_append,
      List.dropWhile_cons_of_neg (not_isSpace_of_startsWith starts)]
  rw [dropWhile_blanks blank, List.dropWhile_cons_of_neg (by decide), nextElement, if_neg (by decide),
    if_pos rfl]
  refine ⟨behind ',' (next ++ (c :: more ++ tail)), ?_, front⟩
  dsimp only
  split
  · next ended => cases front.symm.trans ended
  · next same =>
    cases front.symm.trans same
    rw [if_neg (ne_bracket_of_startsWith starts)]

section Sequence

variable {element : Reader α} {form : Form α} {items : List Json} {read values : List α}

/-- **The items of an array behind its first one are read as the values they stand for.** -/
theorem reads_laterElements_iff (follows : Follows element form)
    (written : ItemsWrittenAs false items text) :
    Reads (laterElements element read) (text ++ rest) values left ↔
      left = rest ∧ ∃ later, List.Forall₂ form later items ∧ values = read.reverse ++ later := by
  induction items generalizing text read with
  | nil =>
    cases written with
    | @close _ gap blank =>
      have front : (gap ++ [']'] ++ rest).dropWhile isSpace = ']' :: rest := by
        rw [List.append_assoc, dropWhile_blanks blank]
        rfl
      rw [reads_laterElements_end (by rw [front]; rfl), front, and_comm]
      simp [List.forall₂_nil_right_iff]
  | cons item items ih =>
    cases written with
    | item separator written more =>
      cases separator with
      | later blank blank' =>
        simp only [List.append_assoc, List.cons_append]
        obtain ⟨shorter, found, front⟩ := nextElement_separator blank blank' written
        rw [reads_laterElements_next found, front]
        simp only [follows.reads_iff written (closed_of_itemsWrittenAs more)]
        constructor
        · rintro ⟨value, _, ⟨rfl, meant⟩, read⟩
          obtain ⟨rfl, later, all, rfl⟩ := (ih more).1 read
          exact ⟨rfl, value :: later, .cons meant all, by simp⟩
        · rintro ⟨rfl, _, all, rfl⟩
          cases all with
          | cons meant all =>
            exact ⟨_, _, ⟨rfl, meant⟩, (ih more).2 ⟨rfl, _, all, by simp⟩⟩

theorem reads_elements_iff (follows : Follows element form)
    (written : ItemsWrittenAs true items text) :
    Reads (elements element) (text ++ rest) values left ↔
      left = rest ∧ List.Forall₂ form values items := by
  rw [elements]
  cases written with
  | close blank =>
    rw [List.append_assoc, List.singleton_append, reads_peek_token_iff blank (by decide)]
    simp [and_comm]
  | item separator written more =>
    cases separator with
    | first blank =>
      simp only [List.append_assoc]
      rw [reads_peek_value_iff written blank]
      obtain ⟨c, _, text_eq, starts⟩ := written.starts
      have first : _ = some c := congrArg List.head? text_eq
      simp only [first]
      split
      · next absent => cases absent
      · next ended =>
        cases ended
        exact absurd rfl (ne_bracket_of_startsWith starts)
      · simp only [reads_bind_iff, follows.reads_iff written (closed_of_itemsWrittenAs more)]
        constructor
        · rintro ⟨value, _, ⟨rfl, meant⟩, read⟩
          obtain ⟨rfl, later, all, rfl⟩ := (reads_laterElements_iff follows more).1 read
          exact ⟨rfl, .cons meant all⟩
        · rintro ⟨rfl, all⟩
          cases all with
          | cons meant all =>
            exact ⟨_, _, ⟨rfl, meant⟩, (reads_laterElements_iff follows more).2 ⟨rfl, _, all, rfl⟩⟩

theorem follows_sequence (follows : Follows element form) :
    Follows (Reader.sequence element) (.sequence form) := by
  intro json text before rest left values written blank _
  rw [Reader.sequence, reads_peek_value_iff written blank]
  obtain ⟨c, tail, rfl, starts⟩ := written.starts
  by_cases isArray : c = '['
  · subst isArray
    obtain ⟨items, rfl, body⟩ := written.array_of_bracket
    rw [List.head?_cons, if_pos rfl, reads_skip_bind_iff]
    refine (reads_elements_iff follows body).trans ?_
    simp [Form.sequence]
  · rw [List.head?_cons, if_neg (by simpa using isArray)]
    refine iff_of_false not_reads_refuse ?_
    rintro ⟨-, _, rfl, -⟩
    cases starts
    exact isArray rfl

end Sequence

end Reader

end ApiBindings.Document
