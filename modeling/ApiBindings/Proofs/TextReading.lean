import ApiBindings.Document.Scalar
import ApiBindings.Proofs.JsonText

/-!
# Reading texts back

The reader of a text undoes every way of writing it.  Escapes are read one at a time, so there is one
lemma for each way of writing a character, and the whole text follows by induction on the relation that
wrote it.
-/

namespace ApiBindings.Document

set_option autoImplicit false

namespace Reader

variable {rest left : List Char}

/-! ## Code units -/

theorem hexDigit?_eq_some {value : Nat} {digit : Char} (written : IsHexDigit value digit) :
    hexDigit? digit = some value := by
  have lower : ∀ value (h : value < "0123456789abcdef".toList.length),
      hexDigit? "0123456789abcdef".toList[value] = some value := by decide
  have upper : ∀ value (h : value < "0123456789ABCDEF".toList.length),
      hexDigit? "0123456789ABCDEF".toList[value] = some value := by decide
  obtain found | found := written <;> obtain ⟨bound, rfl⟩ := List.getElem?_eq_some_iff.1 found
  · exact lower value bound
  · exact upper value bound

theorem length_le_byteLength (text : List Char) : text.length ≤ byteLength text := by
  induction text with
  | nil => exact Nat.le_refl _
  | cons c text ih =>
    have := c.utf8Size_pos
    change text.length + 1 ≤ c.utf8Size + byteLength text
    omega

theorem reads_codeUnit {unit : Nat} {digits : List Char} (written : UnitWrittenAs unit digits) :
    Reads codeUnit (digits ++ rest) unit rest := by
  obtain ⟨first, second, third, fourth⟩ := written
  rename_i w x y z a b c d
  have long : ¬ byteLength ([a, b, c, d] ++ rest) < 4 := by
    have := length_le_byteLength ([a, b, c, d] ++ rest)
    simp only [List.cons_append, List.nil_append, List.length_cons] at this ⊢
    omega
  have values : (([a, b, c, d] ++ rest).take 4).mapM hexDigit? = some [w, x, y, z] := by
    simp [hexDigit?_eq_some first, hexDigit?_eq_some second, hexDigit?_eq_some third,
      hexDigit?_eq_some fourth]
  rw [codeUnit, reads_look_bind_iff, if_neg long, values]
  refine (reads_skip 4).bind (reads_pure_iff.2 ⟨?_, rfl⟩)
  simp only [List.foldl_cons, List.foldl_nil]
  omega

/-! ## Escapes -/

theorem reads_pairMark (mark : Char) : Reads (pairMark mark) (mark :: rest) () rest := by
  rw [pairMark, reads_look_bind_iff]
  simp only [List.head?_cons, if_true]
  exact reads_skip 1

theorem reads_escapedUnit {c : Char} {digits : List Char} (written : UnitWrittenAs c.toNat digits) :
    Reads escapedUnit (digits ++ rest) c rest := by
  refine (reads_codeUnit written).bind ?_
  -- No character has the code point of a surrogate, and four digits do not reach beyond the first plane.
  have valid : c.toNat < 0xD800 ∨ 0xDFFF < c.toNat ∧ c.toNat < 0x110000 := c.valid
  rw [if_neg (by simp only [Bool.and_eq_true, decide_eq_true_eq]; omega),
    if_pos (by simp only [Bool.or_eq_true, decide_eq_true_eq]; omega), Char.ofNat_toNat]
  exact reads_pure _ _

theorem reads_escapedUnit_surrogates {c : Char} {leading trailing : Nat} {front back : List Char}
    (leading_ge : 0xD800 ≤ leading) (leading_lt : leading < 0xDC00)
    (trailing_ge : 0xDC00 ≤ trailing) (trailing_lt : trailing < 0xE000)
    (point : c.toNat = 0x10000 + (leading - 0xD800) * 0x400 + (trailing - 0xDC00))
    (first : UnitWrittenAs leading front) (second : UnitWrittenAs trailing back) :
    Reads escapedUnit (front ++ '\\' :: 'u' :: (back ++ rest)) c rest := by
  refine (reads_codeUnit first).bind ?_
  rw [if_neg (by simp only [Bool.and_eq_true, decide_eq_true_eq]; omega),
    if_neg (by simp only [Bool.or_eq_true, decide_eq_true_eq]; omega)]
  refine (reads_pairMark _).bind ((reads_pairMark _).bind ((reads_codeUnit second).bind ?_))
  rw [if_neg (by simp only [Bool.or_eq_true, decide_eq_true_eq]; omega), ← point, Char.ofNat_toNat]
  exact reads_pure _ _

theorem reads_escaped_letter {letter c : Char} (meant : (letter, c) ∈ shortEscapes) :
    Reads escaped (letter :: rest) c rest := by
  have known : ∀ entry ∈ shortEscapes, Reads escaped (entry.1 :: rest) entry.2 rest := by
    simp only [shortEscapes, List.forall_mem_cons]
    exact ⟨⟨_, rfl⟩, ⟨_, rfl⟩, ⟨_, rfl⟩, ⟨_, rfl⟩, ⟨_, rfl⟩, ⟨_, rfl⟩, ⟨_, rfl⟩, ⟨_, rfl⟩, nofun⟩
  exact known _ meant

theorem reads_escaped_unit {c : Char} (taken : Reads escapedUnit rest c left) :
    Reads escaped ('u' :: rest) c left := by
  simpa [escaped] using taken

/-! ## Texts -/

theorem reads_textBody_close {read : List Char} {value : String} :
    Reads (textBody read) ('"' :: rest) value left ↔
      value = String.ofList read.reverse ∧ left = rest := by
  refine Reads.iff_eq ⟨Nat.le_succ _, ?_⟩
  rw [textBody, if_pos rfl]

theorem reads_textBody_plain {c : Char} {read : List Char} {value : String} (noQuote : c ≠ '"')
    (noBackslash : c ≠ '\\') (noControl : ' ' ≤ c) :
    Reads (textBody read) (c :: rest) value left ↔ Reads (textBody (c :: read)) rest value left := by
  rw [Reads, textBody, if_neg noQuote, if_neg noBackslash, if_neg (Char.not_lt.2 noControl)]
  exact exists_map_weaken_eq_ok_iff

theorem reads_textBody_escape {c : Char} {read middle : List Char} {value : String}
    (taken : Reads escaped rest c middle) :
    Reads (textBody read) ('\\' :: rest) value left ↔
      Reads (textBody (c :: read)) middle value left := by
  obtain ⟨le, outcome⟩ := taken
  rw [Reads, textBody, if_neg (by decide), if_pos rfl, outcome]
  exact exists_map_weaken_eq_ok_iff

/-- However a character is written, the text is read on behind it. -/
theorem reads_textBody_char {c : Char} {read front : List Char} {value : String}
    (written : CharWrittenAs c front) :
    Reads (textBody read) (front ++ rest) value left ↔
      Reads (textBody (c :: read)) rest value left := by
  cases written with
  | plain noQuote noBackslash noControl =>
    exact reads_textBody_plain noQuote noBackslash noControl
  | letter meant => exact reads_textBody_escape (reads_escaped_letter meant)
  | unit digits => exact reads_textBody_escape (reads_escaped_unit (reads_escapedUnit digits))
  | surrogates leading_ge leading_lt trailing_ge trailing_lt point first second =>
    simp only [List.cons_append, List.append_assoc]
    exact reads_textBody_escape (reads_escaped_unit
      (reads_escapedUnit_surrogates leading_ge leading_lt trailing_ge trailing_lt point first second))

/-- **A text is read back from every way of writing it.**  Only the characters in front of its closing
quote count, whatever follows. -/
theorem reads_textBody {chars body : List Char} (written : TextWrittenAs chars body)
    {read : List Char} {value : String} :
    Reads (textBody read) (body ++ rest) value left ↔
      value = String.ofList (read.reverse ++ chars) ∧ left = rest := by
  induction written generalizing read with
  | close => simpa using reads_textBody_close
  | char front _ ih =>
    rw [List.append_assoc, reads_textBody_char front, ih, List.reverse_cons, List.append_assoc]
    rfl

/-- A whole text, behind its opening quote. -/
theorem reads_text {content : String} {body : List Char}
    (written : TextWrittenAs content.toList body) : Reads (textBody []) (body ++ rest) content rest :=
  (reads_textBody written).2 ⟨by simp, rfl⟩

end Reader

end ApiBindings.Document
