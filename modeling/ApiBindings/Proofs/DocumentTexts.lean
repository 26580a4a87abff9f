import ApiBindings.Proofs.FormTexts

/-!
# Documents are read back from every text

A document has many texts: its records may be objects or arrays, keys may come in any order, defaults
may be left out, and characters may be escaped.  `decode_of_writtenAs` says that it has one at all and that
decoding gives it back from each of them.
-/

namespace ApiBindings.Document

set_option autoImplicit false

/-- A text of the document: of some JSON value that stands for it, in any way of writing that. -/
def WrittenAs (document : Document) (source : String) : Prop :=
  ∃ json, Form.document document json ∧ json.IsTextOf source.toList

/-! ## Reading a whole text -/

section Whole

open Reader

theorem closed_of_blanks {gap : List Char} (blank : Blanks gap) : Closed gap := fun c first =>
  List.mem_append_left [',', ']', '\x7d'] (blank c (List.mem_of_mem_head? first))

theorem reads_document_iff {json : Json} {before text after left : List Char} {result : Document}
    (written : json.WrittenAs text) (blank : Blanks before) (blank' : Blanks after) :
    Reads document (before ++ (text ++ after)) result left ↔
      left = [] ∧ Form.document result json := by
  have ended : after.dropWhile isSpace = [] := by
    simpa using dropWhile_blanks blank' []
  rw [document, reads_bind_iff]
  simp only [follows_document written blank (closed_of_blanks blank'), reads_peek_bind_iff]
  constructor
  · rintro ⟨_, _, ⟨rfl, meant⟩, stored⟩
    rw [ended] at stored
    obtain ⟨rfl, rfl⟩ := reads_pure_iff.1 stored
    exact ⟨rfl, meant⟩
  · rintro ⟨rfl, meant⟩
    refine ⟨_, _, ⟨rfl, meant⟩, ?_⟩
    rw [ended]
    exact reads_pure _ _

/-- **A text of a JSON value is decoded as the documents that the value stands for, and no others.** -/
theorem decodeText_eq_ok_iff {json : Json} {source : List Char} (written : json.IsTextOf source)
    {result : Document} : decodeText source = .ok result ↔ Form.document result json := by
  obtain ⟨before, text, after, blank, written, blank', rfl⟩ := written
  have reads_iff (left : List Char) :
      Reads document (before ++ (text ++ after)) result left ↔
        left = [] ∧ Form.document result json := reads_document_iff written blank blank'
  rw [decodeText]
  constructor
  · intro decoded
    cases outcome : document (before ++ (text ++ after)) with
    | error fault => simp [outcome, Except.map] at decoded
    | ok taken =>
      rw [outcome] at decoded
      cases decoded
      exact ((reads_iff _).1 (reads_of_eq_ok outcome)).2
  · intro meant
    obtain ⟨_, outcome⟩ := (reads_iff []).2 ⟨rfl, meant⟩
    rw [outcome]
    rfl

theorem decode_eq_ok_iff {json : Json} {source : String} (written : json.IsTextOf source.toList)
    {result : Document} : decode source = .ok result ↔ Form.document result json := by
  rw [decode, ← decodeText_eq_ok_iff written]
  cases decodeText source.toList <;> simp [Except.mapError]

end Whole

/-! ## Every document and every text of it -/

theorem exists_writtenAs (document : Document) : ∃ source, document.WrittenAs source := by
  obtain ⟨json, text, meant, written⟩ := expressible_document document
  have blank : Blanks [] := by decide
  refine ⟨String.ofList text, json, meant, [], text, [], blank, written, blank, ?_⟩
  rw [String.toList_ofList, List.nil_append, List.append_nil]

/-- **A document has a text, and is decoded from each of its texts.** -/
theorem decode_of_writtenAs (document : Document) :
    (∃ source, document.WrittenAs source) ∧
      ∀ source, document.WrittenAs source → decode source = .ok document := by
  refine ⟨exists_writtenAs document, fun source ⟨json, meant, written⟩ => ?_⟩
  exact (decode_eq_ok_iff written).2 meant

/-- A document with a bit mask and a handle. -/
def mixedDocument : Document :=
  { empty with
    enums := [⟨"A", .bitmask, none, [⟨"B", -1⟩]⟩]
    handles := [⟨"😀", true⟩] }

/-- A JSON value that stands for it, with both ways of writing a record and with reordered keys. -/
def mixedJson : Json :=
  .object
    [ ("handles", .array [.object [("dispatchable", .boolean true), ("name", .text "😀")]]),
      ("enums", .array [.array
        [.text "A", .object [("bitmask", .null)], .null,
          .array [.array [.text "B", .number true ['1'] []]]]]) ]

/-- A text of it, with escapes and blanks. -/
def mixedText : String :=
  "\x7b\"handles\": [\x7b\"dispatchable\":true,\n\"name\":\"\\ud83d\\uDE00\"\x7d],"
    ++ "\"\\u0065nums\":[[\"A\",\x7b\"bitmask\":null\x7d,null,[[\"B\",-1]]]]\x7d "

theorem mixedJson_stands : Form.document mixedDocument mixedJson := by
  have handle : Form.record handleParts ⟨"😀", true⟩
      (.object [("dispatchable", .boolean true), ("name", .text "😀")]) := by
    refine ⟨by decide, ?_, ?_⟩ <;> simp [handleParts, Form.text, Form.boolean]
  have enumerant : Form.record enumerantParts ⟨"B", -1⟩
      (.array [.text "B", .number true ['1'] []]) := by
    refine ⟨by decide, by decide, ?_, ?_⟩ <;> simp [enumerantParts, Form.text, Form.i64]
    decide
  have enumeration : Form.record enumParts ⟨"A", .bitmask, none, [⟨"B", -1⟩]⟩
      (.array [.text "A", .object [("bitmask", .null)], .null,
        .array [.array [.text "B", .number true ['1'] []]]]) := by
    refine ⟨by decide, by decide, ?_, ?_⟩
    · simp [enumParts, Form.text, Form.variant, kindSpellings, Form.nullable, Form.sequence, enumerant]
    · simp [enumParts]
  refine ⟨by decide, ?_, ?_⟩
  · simp [documentParts, Form.sequence, mixedDocument, handle, enumeration]
  · simp [documentParts, mixedDocument, empty]

theorem mixedJson_isTextOf : mixedJson.IsTextOf mixedText.toList := by
  have gap : Blanks [] := by decide
  have space : Blanks [' '] := by decide
  have first : Separator true [] := .first gap
  have comma : Separator false [','] := @Separator.later [] [] gap gap
  have comma_line : Separator false [',', '\n'] := @Separator.later [] ['\n'] gap (by decide)
  have leading : UnitWrittenAs 0xD83D ['d', '8', '3', 'd'] :=
    @UnitWrittenAs.digits 13 8 3 13 _ _ _ _ (.inl rfl) (.inl rfl) (.inl rfl) (.inl rfl)
  have trailing : UnitWrittenAs 0xDE00 ['D', 'E', '0', '0'] :=
    @UnitWrittenAs.digits 13 14 0 0 _ _ _ _ (.inr rfl) (.inr rfl) (.inl rfl) (.inl rfl)
  have face : TextWrittenAs ['😀'] _ :=
    .char (.surrogates (by decide) (by decide) (by decide) (by decide) (by decide) leading trailing) .close
  have handle : Json.WrittenAs (.object [("dispatchable", .boolean true), ("name", .text "😀")]) _ :=
    .object (.member first (textWrittenAs_plain (by simp)) gap gap .isTrue
      (.member comma_line (textWrittenAs_plain (by simp)) gap gap (.text face) (.close gap)))
  have kind : Json.WrittenAs (.object [("bitmask", .null)]) _ :=
    .object (.member first (textWrittenAs_plain (by simp)) gap gap .null (.close gap))
  have minusOne : Json.WrittenAs (.number true ['1'] []) ['-', '1'] :=
    @Json.WrittenAs.number true ['1'] [] [] (by decide) .absent .absent
  have enumerant : Json.WrittenAs (.array [.text "B", .number true ['1'] []]) _ :=
    .array (.item first (.text (textWrittenAs_plain (by simp))) (.item comma minusOne (.close gap)))
  have enumeration : Json.WrittenAs (.array [.text "A", .object [("bitmask", .null)], .null,
      .array [.array [.text "B", .number true ['1'] []]]]) _ :=
    .array (.item first (.text (textWrittenAs_plain (by simp))) (.item comma kind (.item comma .null
      (.item comma (.array (.item first enumerant (.close gap))) (.close gap)))))
  have letter : UnitWrittenAs 'e'.toNat ['0', '0', '6', '5'] :=
    @UnitWrittenAs.digits 0 0 6 5 _ _ _ _ (.inl rfl) (.inl rfl) (.inl rfl) (.inl rfl)
  have enums : TextWrittenAs ['e', 'n', 'u', 'm', 's'] _ :=
    .char (.unit letter) (textWrittenAs_plain (by simp))
  have whole : mixedJson.WrittenAs _ :=
    .object (.member first (textWrittenAs_plain (by simp)) gap space
      (.array (.item first handle (.close gap)))
      (.member comma enums gap gap (.array (.item first enumeration (.close gap))) (.close gap)))
  exact ⟨[], _, [' '], gap, whole, space, by decide +kernel⟩

theorem decode_mixedText : mixedDocument.WrittenAs mixedText ∧ decode mixedText = .ok mixedDocument :=
  have written : mixedDocument.WrittenAs mixedText := ⟨mixedJson, mixedJson_stands, mixedJson_isTextOf⟩
  ⟨written, (decode_of_writtenAs mixedDocument).2 mixedText written⟩

end ApiBindings.Document
