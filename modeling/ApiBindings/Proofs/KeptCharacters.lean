import ApiBindings.Proofs.DecimalNumbers
import ApiBindings.Proofs.ReadingPositions

/-!
# What becomes of the characters of a literal

A literal need not be a proper expression: it may have two points in a number, an `e` with nothing behind it, or any
characters at all.  Whatever it is, only letters of suffixes are lost (`rewrites_emitted`).  They stand directly
behind a number, where a number is what is read as one (`NumberText`).  A complement becomes `!`, and all other
characters stay, in their order; so do the letters and digits of a word, even if they look like a number with a suffix.

Together with the rounds over the positions of a text, this is how the reading of a literal goes on and what it
leaves (`literal_scanned`).
-/

namespace ApiBindings.Literal

set_option autoImplicit false

open ApiBindings.Text

variable {text : List Char}

/-! ## Numbers of any form -/

/-- A number as far as it is read.  Digits may be missing behind `0x`, and of points there may be several. -/
inductive NumberText : List Char → Prop where
  | hex {mark : Char} {digits : List Char} (isMark : mark = 'x' ∨ mark = 'X')
      (all : ∀ c ∈ digits, isHexDigit c = true) : NumberText ('0' :: mark :: digits)
  | decimal {mantissa : List Char} (starts : startsNumber mantissa = true)
      (all : ∀ c ∈ mantissa, c.isDigit = true ∨ c = '.') (power : Option Exponent) :
      NumberText (mantissa ++ (power.map Exponent.text).getD [])

/-- What is read as an exponent is one, or nothing. -/
theorem exists_exponent_eq (text : List Char) :
    ∃ power : Option Exponent, exponent text = (power.map Exponent.text).getD [] := by
  rw [exponent_eq]
  split
  · next found =>
      obtain ⟨marked, digit⟩ := Bool.and_eq_true_iff.mp found
      cases text with
      | nil => cases marked
      | cons mark rest =>
          have isMark : mark = 'e' ∨ mark = 'E' := by simpa using marked
          have all (behind : List Char) : (behind.takeWhile Char.isDigit).all Char.isDigit = true :=
            List.all_eq_true.mpr fun c => List.mem_takeWhile_imp
          by_cases signed : rest[0]?.any (fun c => c == '+' || c == '-') = true
          · have count : markCount (mark :: rest) = 2 := if_pos signed
            rw [count] at digit ⊢
            match rest with
            | [] => cases signed
            | [sign] => cases digit
            | sign :: first :: behind =>
                have isDigit : first.isDigit = true := digit
                have isSign : [sign] ∈ [[], ['+'], ['-']] := by simpa using signed
                exact ⟨some ⟨mark, isMark, [sign], isSign, _, by simp [isDigit], all (first :: behind)⟩, rfl⟩
          · have count : markCount (mark :: rest) = 1 := if_neg signed
            rw [count] at digit ⊢
            match rest with
            | [] => cases digit
            | first :: behind =>
                have isDigit : first.isDigit = true := digit
                exact ⟨some ⟨mark, isMark, [], by simp, _, by simp [isDigit], all (first :: behind)⟩, rfl⟩
  · exact ⟨none, rfl⟩

theorem startsNumber_takeWhile (starts : startsNumber text = true) :
    startsNumber (text.takeWhile fun c => c.isDigit || c == '.') = true := by
  cases text with
  | nil => cases starts
  | cons c rest =>
      rw [startsNumber, Bool.or_eq_true, Bool.and_eq_true] at starts
      rcases starts with digit | ⟨point, behind⟩
      · simp [startsNumber, digit]
      · cases rest with
        | nil => cases behind
        | cons d rest =>
            have digit : d.isDigit = true := behind
            simp [startsNumber, point, digit]

theorem numberText_numeral {c : Char} {rest : List Char} (starts : startsNumber (c :: rest) = true) :
    NumberText (numeral (c :: rest)) := by
  rw [numeral_cons_eq]
  split
  · next hex =>
      obtain ⟨zero, marked⟩ := Bool.and_eq_true_iff.mp hex
      cases rest with
      | nil => cases marked
      | cons mark rest =>
          have isMark : mark = 'x' ∨ mark = 'X' := by simpa using marked
          rw [eq_of_beq zero]
          exact .hex isMark fun digit => List.mem_takeWhile_imp
  · obtain ⟨power, same⟩ := exists_exponent_eq
      ((c :: rest).drop ((c :: rest).takeWhile fun c => c.isDigit || c == '.').length)
    rw [decimal, same]
    refine .decimal (startsNumber_takeWhile starts) (fun d mem => ?_) power
    simpa using List.mem_takeWhile_imp mem

/-! ## What is written -/

/-- The letters of a suffix. -/
def suffixLetters : List Char := ['u', 'U', 'l', 'L', 'f', 'F']

/-- A text and what it is written as.  The letters of suffixes go, which stand directly behind a number or behind
another letter that goes; a `~` becomes `!`; and all else stays. -/
inductive Rewrites : (text written : List Char) → Prop where
  | nil : Rewrites [] []
  /-- A word is all that stands together of letters, digits and underscores, from its start on. -/
  | word {first : Char} {more rest written : List Char} (starts : isWordStart first = true)
      (goesOn : ∀ c ∈ first :: more, isWordPart c = true) (ends : ∀ c ∈ rest.head?, isWordPart c = false)
      (onward : Rewrites rest written) : Rewrites (first :: more ++ rest) (first :: more ++ written)
  | number {digits suffix rest written : List Char} (number : NumberText digits)
      (letters : ∀ c ∈ suffix, c ∈ suffixLetters) (ends : ∀ c ∈ rest.head?, c ∉ suffixLetters)
      (onward : Rewrites rest written) : Rewrites (digits ++ (suffix ++ rest)) (digits ++ written)
  | complement {rest written : List Char} (onward : Rewrites rest written) : Rewrites ('~' :: rest) ('!' :: written)
  | symbol {c : Char} {rest written : List Char} (noWord : isWordPart c = false) (plain : c ≠ '~')
      (onward : Rewrites rest written) : Rewrites (c :: rest) (c :: written)

/-- What stands behind the first characters of a class is none of it. -/
theorem stops_drop_takeWhile (p : Char → Bool) (text : List Char) :
    ∀ c ∈ (text.drop (text.takeWhile p).length).head?, p c = false := by
  intro c found
  have behind : text.drop (text.takeWhile p).length = text.dropWhile p := by
    conv_lhs => arg 2; rw [← List.takeWhile_append_dropWhile (p := p) (l := text)]
    exact List.drop_left
  have stop := List.head?_dropWhile_not p text
  rw [← behind, Option.mem_def.mp found] at stop
  exact stop

theorem isWordPart_eq_false {c : Char} {rest : List Char} (noWord : isWordStart c = false)
    (noNumber : startsNumber (c :: rest) = false) : isWordPart c = false := by
  rw [isWordStart, Bool.or_eq_false_iff] at noWord
  rw [startsNumber, Bool.or_eq_false_iff] at noNumber
  rw [isWordPart, Char.isAlphanum, noWord.1, noWord.2, noNumber.1]
  rfl

theorem mem_suffixLetters_iff {c : Char} : c ∈ suffixLetters ↔ isSuffixLetter c = true := List.contains_iff_mem.symm

/-- What becomes of the first token of a text. -/
theorem rewrites_nextToken {c : Char} {rest written : List Char}
    (onward : Rewrites ((c :: rest).drop (nextToken c rest).source.length) written) :
    Rewrites (c :: rest) ((nextToken c rest).emitted ++ written) := by
  have whole := List.prefix_iff_eq_append.mp (nextToken_source_isPrefix c rest)
  cases starts : isWordStart c with
  | true =>
      rw [nextToken, if_pos starts] at onward whole ⊢
      have goesOn : ∀ d ∈ c :: rest.takeWhile isWordPart, isWordPart d = true :=
        List.forall_mem_cons.mpr ⟨isWordPart_of_isWordStart starts, fun d => List.mem_takeWhile_imp⟩
      have word := Rewrites.word starts goesOn (stops_drop_takeWhile isWordPart rest) onward
      rwa [← whole]
  | false =>
      cases numeric : startsNumber (c :: rest) with
      | true =>
          have token : nextToken c rest = .number (numeral (c :: rest))
              (((c :: rest).drop (numeral (c :: rest)).length).takeWhile isSuffixLetter) := by
            rw [nextToken, if_neg (by simp [starts]), if_pos numeric]
          rw [token, Token.source] at onward whole
          rw [token, Token.emitted]
          have letters : ∀ d ∈ ((c :: rest).drop (numeral (c :: rest)).length).takeWhile isSuffixLetter,
              d ∈ suffixLetters := fun d mem => mem_suffixLetters_iff.mpr (List.mem_takeWhile_imp mem)
          have number := Rewrites.number (numberText_numeral numeric) letters (fun d found => ?_) onward
          · rwa [← List.append_assoc, whole] at number
          · rw [List.length_append, ← List.drop_drop] at found
            rw [mem_suffixLetters_iff, stops_drop_takeWhile _ _ d found]
            exact Bool.false_ne_true
      | false =>
          rw [nextToken, if_neg (by simp [starts]), if_neg (by simp [numeric])] at onward ⊢
          by_cases complement : c = '~'
          · subst complement
            exact .complement onward
          · rw [Token.emitted, if_neg complement]
            exact .symbol (isWordPart_eq_false starts numeric) complement onward

/-- **What is lost of a text are suffixes of numbers.** -/
theorem rewrites_emitted (text : List Char) : Rewrites text (emitted text) := by
  rw [emitted]
  fun_induction tokens text with
  | case1 => exact .nil
  | case2 c rest first ih =>
      rw [List.flatMap_cons]
      exact rewrites_nextToken ih

/-! ## Literals -/

/-- **Reading a literal always goes on, and loses nothing but letters of suffixes.**  Whatever the text is, a round at
a position in it takes no character and no part from outside of it, and goes on to a later position that is not behind
its end; so does the reading of a number, wherever one starts.  The rounds come to the end and write one text, which is
the text that was read without letters directly behind numbers and with `!` for `~`.  Unless it is kept as a text, a
literal becomes what is written of it without the blanks and parentheses around it, up to a `.0` behind it. -/
theorem literal_scanned (text : List Char) :
    (∀ start < text.length, ∃ written next, round? text start = some (written, next) ∧
      start < next ∧ next ≤ text.length) ∧
    (∀ start, startsNumber (text.drop start) = true → ∃ stop, numberEnd? text start = some stop ∧
      start < stop ∧ stop ≤ text.length) ∧
    ∃ written, (∀ other, Runs text 0 other ↔ other = written) ∧ Rewrites text written ∧
      ∀ (type : ScalarType) (literal : String), type ≠ .str → bare literal = text → text.head? ≠ some '"' →
        normalize type literal = String.ofList (
          if type.isFloat && isIntegral written then written ++ ['.', '0'] else written) := by
  refine ⟨fun start inside => ?_, fun start starts => ?_, emitted text, fun other => ?_, rewrites_emitted text, ?_⟩
  · obtain ⟨written, next, step, forward, fits, -⟩ := exists_round inside
    exact ⟨written, next, step, forward, fits⟩
  · cases behind : text.drop start with
    | nil =>
        rw [behind] at starts
        cases starts
    | cons c rest =>
        rw [behind] at starts
        have forward := List.length_pos_iff.mpr (numeral_ne_nil starts)
        have fits := (numeral_isPrefix (c :: rest)).length_le
        have room : (c :: rest).length = text.length - start := by rw [← behind, List.length_drop]
        exact ⟨_, numberEnd?_eq behind, by omega, by omega⟩
  · rw [runs_iff, List.drop_zero]
  · intro type literal noText left unquoted
    have changed : isVerbatim type text = false := isVerbatim_eq_false_iff.mpr ⟨noText, unquoted⟩
    simp only [normalize, left, changed]
    rfl

/-- A number without digits, an `e` with nothing behind it, two points, and a word that looks like a number. -/
theorem literal_scanned_of_malformed :
    (∃ written next, round? "0xu~1e+F..5fK2u".toList 9 = some (written, next) ∧ 9 < next ∧ next ≤ 15) ∧
    (∃ stop, numberEnd? "0xu~1e+F..5fK2u".toList 9 = some stop ∧ 9 < stop ∧ stop ≤ 15) ∧
    Rewrites "0xu~1e+F..5fK2u".toList "0x!1e+F..5K2u".toList ∧
    normalize .f64 " ( 0xu~1e+F..5fK2u)" = "0x!1e+F..5K2u" := by
  obtain ⟨rounds, numbers, written, runs, rewrites, normal⟩ := literal_scanned "0xu~1e+F..5fK2u".toList
  obtain rfl : "0x!1e+F..5K2u".toList = written := (runs _).mp (runs_iff.mpr (by decide +kernel))
  have left : bare " ( 0xu~1e+F..5fK2u)" = "0xu~1e+F..5fK2u".toList := by decide +kernel
  refine ⟨rounds 9 (by decide), numbers 9 (by decide), rewrites, ?_⟩
  rw [normal .f64 " ( 0xu~1e+F..5fK2u)" (by decide) left (by decide)]
  decide +kernel

end ApiBindings.Literal
