import ApiBindings.Proofs.Characters
import ApiBindings.Proofs.Words

/-!
# Decimal numbers

A decimal number of a C header has digits, with a point in front of them, among them, behind them or nowhere, and
may have an exponent.  A suffix is no part of it.

Reading takes such a number from the front of a text, all of it and nothing else (`numeral_append`).  Behind it
there may be anything that does not go on with it: a digit or a point would, and so would the marks of an exponent
and, behind a zero, of a hexadecimal number.
-/

namespace ApiBindings.Literal

set_option autoImplicit false

open ApiBindings.Text

/-! ## Decimal numbers of C -/

/-- An exponent. -/
structure Exponent where
  mark : Char
  isMark : mark = 'e' ∨ mark = 'E'
  sign : List Char
  isSign : sign ∈ [[], ['+'], ['-']]
  digits : List Char
  nonempty : digits ≠ []
  all : digits.all Char.isDigit = true

def Exponent.text (exponent : Exponent) : List Char := exponent.mark :: (exponent.sign ++ exponent.digits)

/-- A decimal number, without a suffix. -/
structure DecimalNumber where
  /-- The digits in front of the point. -/
  whole : List Char
  /-- The digits behind the point, if there is a point. -/
  fraction : Option (List Char)
  exponent : Option Exponent
  nonempty : whole ++ fraction.getD [] ≠ []
  all : (whole ++ fraction.getD []).all Char.isDigit = true

namespace DecimalNumber

variable (number : DecimalNumber)

/-- The digits and the point. -/
def mantissa : List Char :=
  number.whole ++ match number.fraction with
    | none => []
    | some digits => '.' :: digits

/-- The exponent as it is written, if there is one. -/
def powerText : List Char :=
  match number.exponent with
  | none => []
  | some exponent => exponent.text

def text : List Char := number.mantissa ++ number.powerText

/-- All digits around the point. -/
def digits : List Char := number.whole ++ number.fraction.getD []

theorem isDigit_digits : ∀ c ∈ number.digits, c.isDigit = true := List.all_eq_true.mp number.all

theorem isDigit_whole : ∀ c ∈ number.whole, c.isDigit = true := fun c mem =>
  number.isDigit_digits c (List.mem_append_left _ mem)

theorem isDigit_fraction : ∀ digits ∈ number.fraction, ∀ c ∈ digits, c.isDigit = true := by
  intro digits found c mem
  refine number.isDigit_digits c (List.mem_append_right _ ?_)
  rw [Option.mem_def.mp found]
  exact mem

end DecimalNumber

/-! ## Reading them -/

/-- Goes on with a decimal number, directly behind it. -/
def extendsDecimal (c : Char) : Bool := c.isDigit || ['.', 'e', 'E', 'x', 'X'].contains c

/-- What follows a decimal number does not go on with it. -/
abbrev EndsDecimal (rest : List Char) : Prop := ∀ c ∈ rest.head?, extendsDecimal c = false

section Ends

variable {rest : List Char} (ends : EndsDecimal rest)

include ends

theorem EndsDecimal.not_isDigit : ∀ c ∈ rest.head?, c.isDigit = false := by
  intro c found
  have other := ends c found
  rw [extendsDecimal, Bool.or_eq_false_iff] at other
  exact other.1

theorem EndsDecimal.notMem_marks : ∀ c ∈ rest.head?, c ∉ ['.', 'e', 'E', 'x', 'X'] := by
  intro c found isMark
  have other := ends c found
  rw [extendsDecimal, List.contains_iff_mem.mpr isMark, Bool.or_true] at other
  cases other

theorem EndsDecimal.not_isMantissa : ∀ c ∈ rest.head?, (c.isDigit || c == '.') = false := by
  intro c found
  have noMark := ends.notMem_marks c found
  rw [Bool.or_eq_false_iff, beq_eq_false_iff_ne]
  exact ⟨ends.not_isDigit c found, fun point => noMark (by simp [point])⟩

theorem EndsDecimal.exponent_eq : exponent rest = [] := by
  have marks : exponentMarks rest = [] := by
    cases rest with
    | nil => rfl
    | cons c rest =>
        have noMark := ends.notMem_marks c rfl
        have apart : (c == 'e' || c == 'E') = false := by
          rw [Bool.or_eq_false_iff, beq_eq_false_iff_ne, beq_eq_false_iff_ne]
          exact ⟨fun same => noMark (by simp [same]), fun same => noMark (by simp [same])⟩
        simp only [exponentMarks, apart]
        rfl
  rw [exponent, marks]

end Ends

/-- The marks of an exponent are its `e` and its sign. -/
theorem exponentMarks_append (power : Exponent) (rest : List Char) :
    exponentMarks (power.text ++ rest) = power.mark :: power.sign := by
  obtain ⟨mark, isMark, sign, isSign, digits, nonempty, all⟩ := power
  obtain ⟨digit, digits, rfl⟩ := List.exists_cons_of_ne_nil nonempty
  have isDigit : digit.isDigit = true := List.all_eq_true.mp all digit List.mem_cons_self
  have marked : (mark == 'e' || mark == 'E') = true := by rcases isMark with rfl | rfl <;> rfl
  simp only [Exponent.text, List.cons_append, List.append_assoc, exponentMarks, marked]
  simp only [List.mem_cons, List.not_mem_nil, or_false] at isSign
  rcases isSign with rfl | rfl | rfl
  · -- Without a sign the first digit stands where the sign would.
    rw [List.nil_append]
    generalize digits ++ rest = behind
    cases behind <;> simp [isDigit]
  · simp [isDigit]
  · simp [isDigit]

/-- **Reading takes an exponent up to its last digit.** -/
theorem exponent_append (power : Exponent) {rest : List Char}
    (ends : ∀ c ∈ rest.head?, c.isDigit = false) : exponent (power.text ++ rest) = power.text := by
  have behind : (power.text ++ rest).drop (power.mark :: power.sign).length = power.digits ++ rest := by
    rw [Exponent.text, ← List.cons_append, List.append_assoc, List.drop_left]
  have taken : (power.digits ++ rest).takeWhile Char.isDigit = power.digits :=
    takeWhile_append_of_stops (List.all_eq_true.mp power.all) ends
  rw [exponent, exponentMarks_append]
  dsimp only
  rw [behind, taken]
  rfl

/-- A character of a decimal number. -/
def isDecimalPart (c : Char) : Bool := c.isDigit || ['.', 'e', 'E', '+', '-'].contains c

theorem Exponent.isDecimalPart_text (power : Exponent) : ∀ c ∈ power.text, isDecimalPart c = true := by
  obtain ⟨mark, isMark, sign, isSign, digits, nonempty, all⟩ := power
  refine List.forall_mem_cons.mpr ⟨?_, List.forall_mem_append.mpr ⟨?_, fun c mem => ?_⟩⟩
  · rcases isMark with rfl | rfl <;> rfl
  · have signs : [[], ['+'], ['-']].all (·.all isDecimalPart) = true := by decide
    exact List.all_eq_true.mp (List.all_eq_true.mp signs sign isSign)
  · rw [isDecimalPart, List.all_eq_true.mp all c mem, Bool.true_or]

namespace DecimalNumber

variable (number : DecimalNumber)

theorem isMantissa_mantissa : ∀ c ∈ number.mantissa, (c.isDigit || c == '.') = true := by
  have wholes : ∀ c ∈ number.whole, (c.isDigit || c == '.') = true := fun c mem => by
    rw [number.isDigit_whole c mem, Bool.true_or]
  rw [mantissa]
  cases found : number.fraction with
  | none => simpa using wholes
  | some digits =>
      refine List.forall_mem_append.mpr ⟨wholes, List.forall_mem_cons.mpr ⟨rfl, fun c mem => ?_⟩⟩
      rw [number.isDigit_fraction digits found c mem, Bool.true_or]

/-- Every character of a number is one that numbers have. -/
theorem isDecimalPart_text : ∀ c ∈ number.text, isDecimalPart c = true := by
  refine List.forall_mem_append.mpr ⟨fun c mem => ?_, ?_⟩
  · have part := number.isMantissa_mantissa c mem
    rw [Bool.or_eq_true, beq_iff_eq] at part
    rcases part with digit | rfl
    · rw [isDecimalPart, digit, Bool.true_or]
    · rfl
  · rw [powerText]
    cases number.exponent with
    | none => exact List.forall_mem_nil _
    | some power => exact power.isDecimalPart_text

/-- A number starts with a digit, or with a point and a digit. -/
theorem exists_mantissa_eq_cons : ∃ c rest, number.mantissa = c :: rest ∧
    (c.isDigit = true ∨ c = '.' ∧ ∃ digit ∈ rest.head?, digit.isDigit = true) := by
  rw [mantissa]
  cases wholes : number.whole with
  | cons c rest => exact ⟨c, _, rfl, .inl (number.isDigit_whole c (by simp [wholes]))⟩
  | nil =>
      have nonempty := number.nonempty
      cases found : number.fraction with
      | none => simp [wholes, found] at nonempty
      | some digits =>
          obtain ⟨digit, rest, rfl⟩ : ∃ digit rest, digits = digit :: rest :=
            List.exists_cons_of_ne_nil (by simpa [wholes, found] using nonempty)
          have isDigit := number.isDigit_fraction _ found digit List.mem_cons_self
          exact ⟨'.', digit :: rest, rfl, .inr ⟨rfl, digit, rfl, isDigit⟩⟩

/-- A number starts like one, whatever stands behind it. -/
theorem exists_text_eq_cons : ∃ c tail, number.text = c :: tail ∧ isWordStart c = false ∧
    ∀ behind, startsNumber (c :: (tail ++ behind)) = true := by
  obtain ⟨c, rest, mantissa, starts⟩ := number.exists_mantissa_eq_cons
  refine ⟨c, rest ++ number.powerText, by rw [text, mantissa, List.cons_append], ?_⟩
  rcases starts with digit | ⟨rfl, digit, found, isDigit⟩
  · exact ⟨not_isWordStart_of_isDigit digit, fun behind => by rw [startsNumber, digit, Bool.true_or]⟩
  · obtain ⟨rest, rfl⟩ : ∃ more, rest = digit :: more := List.head?_eq_some_iff.mp found
    exact ⟨rfl, fun behind => by simp [startsNumber, isDigit]⟩

theorem decimal_append {rest : List Char} (ends : EndsDecimal rest) :
    decimal (number.text ++ rest) = number.text := by
  -- Neither an exponent nor what stands behind the number goes on with the mantissa.
  have stops : ∀ c ∈ (number.powerText ++ rest).head?, (c.isDigit || c == '.') = false := by
    rw [powerText]
    cases number.exponent with
    | none => exact ends.not_isMantissa
    | some power =>
        rintro c found
        obtain rfl : power.mark = c := Option.some.inj found
        rcases power.isMark with mark | mark <;> rw [mark] <;> rfl
  have taken := takeWhile_append_of_stops number.isMantissa_mantissa stops
  have power : Literal.exponent (number.powerText ++ rest) = number.powerText := by
    rw [powerText]
    cases number.exponent with
    | none => exact ends.exponent_eq
    | some power => exact exponent_append power ends.not_isDigit
  rw [text, List.append_assoc, decimal, taken, List.drop_left, power]

/-- **Reading takes a decimal number, all of it and no more.** -/
theorem numeral_append {rest : List Char} (ends : EndsDecimal rest) :
    numeral (number.text ++ rest) = number.text := by
  unfold numeral
  split
  · next x more same =>
      -- No `x` is behind the zero: neither in the number nor at the start of what follows.
      have unmarked : ¬ (x == 'x' || x == 'X') = true := by
        rw [Bool.or_eq_true, beq_iff_eq, beq_iff_eq]
        intro marked
        rcases List.append_eq_cons_iff.mp same with ⟨empty, -⟩ | ⟨tail, whole, behind⟩
        · obtain ⟨c, tail, nonempty, -⟩ := number.exists_text_eq_cons
          cases nonempty.symm.trans empty
        · rcases List.append_eq_cons_iff.mp behind.symm with ⟨-, first⟩ | ⟨tail, rfl, -⟩
          · have noMark := ends.notMem_marks x (by rw [first]; rfl)
            rcases marked with rfl | rfl <;> exact noMark (by decide)
          · have part := number.isDecimalPart_text x (by rw [whole]; simp)
            rcases marked with rfl | rfl <;> exact absurd part (by decide)
      rw [if_neg unmarked, ← same, number.decimal_append ends]
  · exact number.decimal_append ends

end DecimalNumber

end ApiBindings.Literal
