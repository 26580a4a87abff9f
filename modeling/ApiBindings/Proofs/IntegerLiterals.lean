import ApiBindings.Proofs.Lexemes
import Mathlib.Data.Nat.Digits.Lemmas

/-!
# Integer literals

An integer of a C header has decimal digits, octal digits behind a zero, or hexadecimal digits behind `0x` or
`0X`, and may have a suffix.  In the emitted code there are decimal digits and hexadecimal digits behind `0x`, and
a zero in front of decimal digits says nothing.

Reading a literal takes off its parentheses and its suffix and leaves the digits as they are (`normalize_integer`).
So the emitted number is the same exactly where both sides read the digits alike: in decimal, in hexadecimal
behind a small `x`, and in octal as long as no digit but the last is other than zero
(`normalize_integer_iff_portable`).
-/

namespace ApiBindings.Literal

set_option autoImplicit false

open ApiBindings.Text

/-! ## Numbers -/

/-- An octal digit. -/
def isOctalDigit (c : Char) : Bool := '0' ≤ c && c ≤ '7'

/-- The number that a digit stands for, in any base up to sixteen. -/
def digitNumber (c : Char) : Nat :=
  if c.isDigit then c.toNat - '0'.toNat
  else if c.isLower then c.toNat - 'a'.toNat + 10
  else c.toNat - 'A'.toNat + 10

/-- The number that digits stand for in a base. -/
def numberIn (base : Nat) (digits : List Char) : Nat := Nat.ofDigits base (digits.reverse.map digitNumber)

/-- The number that digits of a base stand for, with underscores among them. -/
def numberOf? (base : Nat) (isDigit : Char → Bool) (text : List Char) : Option Nat :=
  let digits := text.filter (· != '_')
  if !digits.isEmpty && digits.all isDigit then some (numberIn base digits) else none

/-- The number that an integer literal of the emitted code stands for: hexadecimal digits behind `0x`, or decimal
digits, the first of which comes before all underscores. -/
def emittedNumber? : List Char → Option Nat
  | '0' :: 'x' :: digits => numberOf? 16 isHexDigit digits
  | text => if text.head?.any Char.isDigit then numberOf? 10 Char.isDigit text else none

/-! ## Integers in C -/

/-- An integer literal of C, without its suffix. -/
inductive IntegerLiteral where
  /-- Decimal digits, the first of which is no zero. -/
  | decimal (first : Char) (digits : List Char) (leads : first ≠ '0')
      (all : (first :: digits).all Char.isDigit = true)
  /-- Octal digits behind a zero. -/
  | octal (digits : List Char) (all : digits.all isOctalDigit = true)
  /-- Hexadecimal digits behind `0x`, or behind `0X`. -/
  | hex (capital : Bool) (digits : List Char) (nonempty : digits ≠ []) (all : digits.all isHexDigit = true)

namespace IntegerLiteral

def text : IntegerLiteral → List Char
  | decimal first digits _ _ => first :: digits
  | octal digits _ => '0' :: digits
  | hex capital digits _ _ => '0' :: (if capital then 'X' else 'x') :: digits

def value : IntegerLiteral → Nat
  | decimal first digits _ _ => numberIn 10 (first :: digits)
  | octal digits _ => numberIn 8 digits
  | hex _ digits _ _ => numberIn 16 digits

/-- A literal that the emitted code reads alike. -/
def Portable : IntegerLiteral → Prop
  | decimal _ _ _ _ => True
  | octal digits _ => ∀ c ∈ digits.dropLast, c = '0'
  | hex capital _ _ _ => capital = false

instance : DecidablePred Portable := fun literal =>
  match literal with
  | decimal _ _ _ _ => .isTrue trivial
  | octal digits _ => List.decidableBAll _ digits.dropLast
  | hex capital _ _ _ => inferInstanceAs (Decidable (capital = false))

end IntegerLiteral

/-- The suffixes of integers: a mark for unsigned numbers and one for long numbers, in either order, or none of
them. -/
def suffixes : List (List Char) :=
  let unsigned := [[], ['u'], ['U']]
  let long := [[], ['l'], ['L'], ['l', 'l'], ['L', 'L']]
  (unsigned.flatMap fun first => long.map (first ++ ·)) ++ long.flatMap fun first => unsigned.map (first ++ ·)

/-- The suffix of an integer. -/
structure Suffix where
  text : List Char
  legal : text ∈ suffixes

/-- An integer the way the value of a constant is written: with a suffix, and in parentheses. -/
structure IntegerValue where
  literal : IntegerLiteral
  suffix : Suffix
  front : Blanks
  /-- The blanks inside each pair of parentheses, the outermost pair first. -/
  pairs : List (Blanks × Blanks)
  back : Blanks

def IntegerValue.spelling (value : IntegerValue) : String :=
  String.ofList (value.front.chars ++
    (enclose value.pairs (value.literal.text ++ value.suffix.text) ++ value.back.chars))

/-! ## Characters -/

theorem isOctalDigit_iff_toNat {c : Char} : isOctalDigit c = true ↔ 48 ≤ c.toNat ∧ c.toNat ≤ 55 := by
  simp only [isOctalDigit, Bool.and_eq_true, decide_eq_true_eq]
  exact Iff.rfl

theorem isDigit_of_isOctalDigit {c : Char} (digit : isOctalDigit c = true) : c.isDigit = true := by
  rw [isOctalDigit_iff_toNat] at digit
  rw [isDigit_iff_toNat]
  omega

theorem digitNumber_eq_zero_iff {c : Char} (digit : c.isDigit = true) : digitNumber c = 0 ↔ c = '0' := by
  rw [digitNumber, if_pos digit]
  rw [isDigit_iff_toNat] at digit
  constructor
  · intro zero
    have same : c.toNat = '0'.toNat := Nat.le_antisymm (Nat.sub_eq_zero_iff_le.mp zero) digit.1
    rw [← Char.ofNat_toNat c, same]
    rfl
  · rintro rfl
    rfl

theorem Suffix.all (suffix : Suffix) {p : Char → Bool} (letters : ['u', 'U', 'l', 'L'].all p = true) :
    ∀ c ∈ suffix.text, p c = true := by
  have listed : suffixes.all (·.all (['u', 'U', 'l', 'L'].contains ·)) = true := by decide
  intro c mem
  have letter := List.all_eq_true.mp (List.all_eq_true.mp listed _ suffix.legal) c mem
  exact List.all_eq_true.mp letters c (List.contains_iff_mem.mp letter)

theorem Suffix.isAlphanum (suffix : Suffix) : ∀ c ∈ suffix.text, c.isAlphanum = true := suffix.all (by decide)

namespace IntegerLiteral

variable (literal : IntegerLiteral)

/-- A literal starts with a digit. -/
theorem exists_text_eq_cons : ∃ c rest, literal.text = c :: rest ∧ c.isDigit = true := by
  cases literal with
  | decimal first digits _ all => exact ⟨first, digits, rfl, List.all_eq_true.mp all _ List.mem_cons_self⟩
  | octal digits _ => exact ⟨'0', digits, rfl, rfl⟩
  | hex capital digits _ _ => exact ⟨'0', _, rfl, rfl⟩

theorem isAlphanum_text : ∀ c ∈ literal.text, c.isAlphanum = true := by
  cases literal with
  | decimal first digits _ all =>
      exact fun c mem => isAlphanum_of_isDigit (List.all_eq_true.mp all c mem)
  | octal digits all =>
      refine List.forall_mem_cons.mpr ⟨rfl, fun c mem => ?_⟩
      exact isAlphanum_of_isDigit (isDigit_of_isOctalDigit (List.all_eq_true.mp all c mem))
  | hex capital digits _ all =>
      have mark : (if capital then 'X' else 'x').isAlphanum = true := by cases capital <;> rfl
      refine List.forall_mem_cons.mpr ⟨rfl, List.forall_mem_cons.mpr ⟨mark, fun c mem => ?_⟩⟩
      exact isAlphanum_of_isHexDigit (List.all_eq_true.mp all c mem)

end IntegerLiteral

/-! ## Reading -/

theorem Suffix.all_contains (suffix : Suffix) {letters : List Char}
    (listed : ['u', 'U', 'l', 'L'].all (letters.contains ·) = true) :
    suffix.text.all (letters.contains ·) = true :=
  List.all_eq_true.mpr (suffix.all listed)

/-- An integer and its suffix as a lexeme; in decimal and in octal it is a number without point and exponent. -/
def IntegerLiteral.lexeme (suffix : Suffix) : IntegerLiteral → Lexeme
  | decimal first digits _ all =>
      .decimal ⟨first :: digits, none, none, by simp, by simpa using all⟩ suffix.text
        (suffix.all_contains (by decide))
  | octal digits all =>
      .decimal ⟨'0' :: digits, none, none, by simp, by
        rw [Option.getD_none, List.append_nil, List.all_cons, Bool.and_eq_true]
        exact ⟨rfl, List.all_eq_true.mpr fun c mem => isDigit_of_isOctalDigit (List.all_eq_true.mp all c mem)⟩⟩
        suffix.text (suffix.all_contains (by decide))
  | hex capital digits nonempty all =>
      .hex capital digits nonempty all suffix.text (suffix.all_contains (by decide))

namespace IntegerLiteral

variable (literal : IntegerLiteral) (suffix : Suffix)

theorem text_lexeme : (literal.lexeme suffix).text = literal.text ++ suffix.text := by
  cases literal <;> simp [lexeme, Lexeme.text, Lexeme.hexText, DecimalNumber.text, DecimalNumber.mantissa,
    DecimalNumber.powerText, text]

theorem rewritten_lexeme : (literal.lexeme suffix).rewritten = literal.text := by
  cases literal <;> simp [lexeme, Lexeme.rewritten, Lexeme.hexText, DecimalNumber.text, DecimalNumber.mantissa,
    DecimalNumber.powerText, text]

end IntegerLiteral

/-- **An integer is emitted with the digits that it has**, without its suffix, and without the parentheses and the
blanks around it. -/
theorem normalize_integer {type : ScalarType} (notFloat : type.isFloat = false) (notText : type ≠ .str)
    (value : IntegerValue) : normalize type value.spelling = String.ofList value.literal.text := by
  obtain ⟨literal, suffix, front, pairs, back⟩ := value
  have letters : ∀ c ∈ literal.text ++ suffix.text, c.isAlphanum = true :=
    List.forall_mem_append.mpr ⟨literal.isAlphanum_text, suffix.isAlphanum⟩
  have ne_of_mem {other : Char} (noLetter : other.isAlphanum = false) :
      ∀ c ∈ literal.text ++ suffix.text, c ≠ other := by
    rintro c mem rfl
    exact Bool.false_ne_true (noLetter.symm.trans (letters c mem))
  have solid : Solid (literal.text ++ suffix.text) := by
    obtain ⟨c, rest, text, -⟩ := literal.exists_text_eq_cons
    exact ⟨by simp [text], fun c mem => not_isBlank_of_isAlphanum (letters c mem)⟩
  have left := bare_enclose_solid solid
    (fun c mem => ⟨ne_of_mem (by decide) c mem, ne_of_mem (by decide) c mem⟩) front back pairs
  have unquoted : ∀ c ∈ (literal.text ++ suffix.text).head?, c ≠ '"' := fun c first =>
    ne_of_mem (by decide) c (List.mem_of_mem_head? first)
  -- Suffix and all, an integer is a single lexeme.
  have alone : literal.text ++ suffix.text = [literal.lexeme suffix].flatMap Lexeme.text := by
    simp [literal.text_lexeme]
  rw [alone] at left unquoted
  rw [IntegerValue.spelling, alone, normalize_of_bare notText (List.isChain_singleton _) left unquoted, notFloat]
  simp [literal.rewritten_lexeme]

/-! ## Emitted numbers -/

theorem filter_ne_line {isDigit : Char → Bool} {digits : List Char} (all : ∀ c ∈ digits, isDigit c = true)
    (noLine : isDigit '_' = false) : digits.filter (· != '_') = digits := by
  refine List.filter_eq_self.mpr fun c mem => ?_
  rw [bne_iff_ne]
  rintro rfl
  exact Bool.false_ne_true (noLine.symm.trans (all _ mem))

theorem numberOf?_digits {base : Nat} {isDigit : Char → Bool} {digits : List Char} (nonempty : digits ≠ [])
    (all : ∀ c ∈ digits, isDigit c = true) (noLine : isDigit '_' = false) :
    numberOf? base isDigit digits = some (numberIn base digits) := by
  simp only [numberOf?, filter_ne_line all noLine]
  rw [if_pos (by simp [nonempty, List.all_eq_true.mpr all])]

theorem numberOf?_eq_none {base : Nat} {isDigit : Char → Bool} {text : List Char} {c : Char} (mem : c ∈ text)
    (noLine : c ≠ '_') (noDigit : isDigit c = false) : numberOf? base isDigit text = none := by
  have kept : c ∈ text.filter (· != '_') := List.mem_filter.mpr ⟨mem, bne_iff_ne.mpr noLine⟩
  have outside : (text.filter (· != '_')).all isDigit = false := by
    rw [← Bool.not_eq_true, List.all_eq_true]
    exact fun all => Bool.false_ne_true (noDigit.symm.trans (all c kept))
  simp only [numberOf?, outside, Bool.and_false]
  rfl

theorem numberIn_concat (base : Nat) (digits : List Char) (last : Char) :
    numberIn base (digits ++ [last]) = digitNumber last + base * numberIn base digits := by
  rw [numberIn, List.reverse_append, List.map_append]
  exact Nat.ofDigits_cons

/-- A zero in front counts for nothing. -/
theorem numberIn_zero_cons (base : Nat) (digits : List Char) :
    numberIn base ('0' :: digits) = numberIn base digits := by
  rw [numberIn, List.reverse_cons, List.map_append]
  exact Nat.ofDigits_append_zero _

theorem numberIn_eq_zero_iff {base : Nat} (positive : 0 < base) {digits : List Char}
    (all : ∀ c ∈ digits, c.isDigit = true) : numberIn base digits = 0 ↔ ∀ c ∈ digits, c = '0' := by
  induction digits using List.reverseRecOn with
  | nil => exact iff_of_true rfl (List.forall_mem_nil _)
  | append_singleton digits last ih =>
      obtain ⟨before, here⟩ := List.forall_mem_append.mp all
      have digit := List.forall_mem_singleton.mp here
      rw [numberIn_concat, Nat.add_eq_zero_iff, Nat.mul_eq_zero, or_iff_right positive.ne', ih before,
        digitNumber_eq_zero_iff digit, List.forall_mem_append, List.forall_mem_singleton, and_comm]

/-- Every digit but the last counts for more in base ten than in base eight. -/
theorem numberIn_ten_eq_eight_iff {digits : List Char} (all : ∀ c ∈ digits, c.isDigit = true) :
    numberIn 10 digits = numberIn 8 digits ↔ ∀ c ∈ digits.dropLast, c = '0' := by
  obtain rfl | ⟨before, last, rfl⟩ := List.eq_nil_or_concat digits
  · exact iff_of_true rfl (List.forall_mem_nil _)
  · rw [List.concat_eq_append] at all ⊢
    obtain ⟨digits, -⟩ := List.forall_mem_append.mp all
    have more : numberIn 8 before ≤ numberIn 10 before := Nat.ofDigits_monotone _ (by decide)
    rw [numberIn_concat, numberIn_concat, List.dropLast_concat,
      ← numberIn_eq_zero_iff (show 0 < 10 by decide) digits]
    omega

/-- Digits behind a digit are read in base ten, unless the next character is an `x`. -/
theorem emittedNumber?_of_isDigit {c : Char} {rest : List Char} (digit : c.isDigit = true)
    (unmarked : rest.head? ≠ some 'x') :
    emittedNumber? (c :: rest) = numberOf? 10 Char.isDigit (c :: rest) := by
  unfold emittedNumber?
  split
  · next digits same =>
      obtain ⟨-, rfl⟩ := List.cons.inj same
      exact absurd rfl unmarked
  · exact if_pos digit

theorem emittedNumber?_of_digits {c : Char} {rest : List Char}
    (all : ∀ digit ∈ c :: rest, digit.isDigit = true) :
    emittedNumber? (c :: rest) = some (numberIn 10 (c :: rest)) := by
  obtain ⟨here, later⟩ := List.forall_mem_cons.mp all
  rw [emittedNumber?_of_isDigit here, numberOf?_digits (List.cons_ne_nil _ _) all (by decide)]
  exact fun mark => absurd (later _ (List.mem_of_mem_head? mark)) (by decide)

/-- **The emitted code reads a literal as its value exactly if it is portable.** -/
theorem emittedNumber?_eq_value_iff (literal : IntegerLiteral) :
    emittedNumber? literal.text = some literal.value ↔ literal.Portable := by
  cases literal with
  | decimal first digits leads all =>
      rw [IntegerLiteral.text, emittedNumber?_of_digits (List.all_eq_true.mp all)]
      exact iff_of_true rfl trivial
  | octal digits all =>
      have decimals : ∀ c ∈ digits, c.isDigit = true := fun c mem =>
        isDigit_of_isOctalDigit (List.all_eq_true.mp all c mem)
      rw [IntegerLiteral.text, emittedNumber?_of_digits (List.forall_mem_cons.mpr ⟨rfl, decimals⟩),
        numberIn_zero_cons, Option.some_inj]
      exact numberIn_ten_eq_eight_iff decimals
  | hex capital digits nonempty all =>
      cases capital with
      | false =>
          have read : emittedNumber? ('0' :: 'x' :: digits) = some (numberIn 16 digits) :=
            numberOf?_digits nonempty (List.all_eq_true.mp all) (by decide)
          exact iff_of_true read rfl
      | true =>
          have unread : emittedNumber? ('0' :: 'X' :: digits) = none := by
            rw [emittedNumber?_of_isDigit (by decide) (by simp)]
            exact numberOf?_eq_none (c := 'X') (by simp) (by decide) (by decide)
          refine iff_of_false (fun read => ?_) Bool.noConfusion
          cases unread.symm.trans read

/-! ## Integer constants -/

/-- **An integer constant is emitted as the digits of its literal, and these stand for the same number exactly if
the literal is portable.**  There may be any suffix and any number of parentheses, with blanks inside and around
them. -/
theorem normalize_integer_iff_portable {type : ScalarType} (notFloat : type.isFloat = false)
    (notText : type ≠ .str) (value : IntegerValue) :
    normalize type value.spelling = String.ofList value.literal.text ∧
    (emittedNumber? (normalize type value.spelling).toList = some value.literal.value ↔
      value.literal.Portable) := by
  have digits := normalize_integer notFloat notText value
  refine ⟨digits, ?_⟩
  rw [digits, String.toList_ofList]
  exact emittedNumber?_eq_value_iff value.literal

/-- The value `(( 0x7FFFFFFFll))`. -/
def largest : IntegerValue where
  literal := .hex false ['7', 'F', 'F', 'F', 'F', 'F', 'F', 'F'] (by decide) (by decide)
  suffix := ⟨['l', 'l'], by decide⟩
  front := .none
  pairs := [(.none, .none), (.space, .none)]
  back := .none

theorem normalize_largest : ScalarType.i64.isFloat = false ∧ ScalarType.i64 ≠ .str ∧
    largest.spelling = "(( 0x7FFFFFFFll))" ∧ normalize .i64 "(( 0x7FFFFFFFll))" = "0x7FFFFFFF" ∧
    emittedNumber? "0x7FFFFFFF".toList = some 2147483647 := by
  have notFloat : ScalarType.i64.isFloat = false := rfl
  have notText : ScalarType.i64 ≠ .str := by decide
  have spelled : largest.spelling = "(( 0x7FFFFFFFll))" := by decide +kernel
  have digits : String.ofList largest.literal.text = "0x7FFFFFFF" := by decide +kernel
  have number : largest.literal.value = 2147483647 := by decide +kernel
  obtain ⟨same, value⟩ := normalize_integer_iff_portable notFloat notText largest
  have read := value.mpr rfl
  rw [same, digits, number] at read
  rw [spelled, digits] at same
  exact ⟨notFloat, notText, spelled, same, read⟩

/-- The value `010`. -/
def eight : IntegerValue := ⟨.octal ['1', '0'] (by decide), ⟨[], by decide⟩, .none, [], .none⟩

/-- Octal digits are emitted as they are, and stand for another number. -/
theorem octal_digits_kept : eight.spelling = "010" ∧ eight.literal.value = 8 ∧ normalize .u32 "010" = "010" ∧
    emittedNumber? "010".toList = some 10 := by
  decide +kernel

end ApiBindings.Literal
