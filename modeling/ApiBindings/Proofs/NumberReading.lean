import ApiBindings.Document.Scalar
import ApiBindings.Proofs.Characters
import ApiBindings.Proofs.JsonText

/-!
# Reading integers back

A number of a document is an integer for its reader exactly when it is written with plain digits and
has a value of 64 bits.  A fraction or an exponent makes it a float whatever its value is, and so does a
value out of that range: the float is what a reader of an integer refuses.
-/

namespace ApiBindings.Document

set_option autoImplicit false

/-! ## What may follow a value -/

/-- Nothing follows, or a blank or a token that ends or continues an array or an object.  A number needs
this: its digits would go on otherwise. -/
def Closed (rest : List Char) : Prop :=
  ∀ c ∈ rest.head?, c ∈ [' ', '\t', '\n', '\r', ',', ']', '\x7d']

theorem Closed.not_isDigit {rest : List Char} (closed : Closed rest) : ∀ c ∈ rest.head?, ¬ c.isDigit := by
  have apart : ∀ c ∈ [' ', '\t', '\n', '\r', ',', ']', '\x7d'], ¬ c.isDigit := by simp
  exact fun c same => apart c (closed c same)

namespace Reader

variable {rest left : List Char} {negative : Bool}

/-! ## Floats -/

section Floats

variable {significand : Nat} {exponent value : Int}

theorem not_reads_floatOf :
    ¬ Reads (floatOf negative significand exponent) rest (.integer value) left := by
  rw [floatOf]
  split <;> simp

theorem not_reads_exponentPart :
    ¬ Reads (exponentPart negative significand exponent) rest (.integer value) left := by
  intro read
  simp only [exponentPart, reads_bind_iff] at read
  obtain ⟨lowers, _, -, run, _, -, power?, _, -, read⟩ := read
  cases power? with
  | some power => exact not_reads_floatOf read
  | none => simp at read

theorem not_reads_floatEnd :
    ¬ Reads (floatEnd negative significand exponent) rest (.integer value) left := by
  rw [floatEnd, reads_look_bind_iff]
  dsimp only
  split
  · rw [reads_skip_bind_iff]
    exact not_reads_exponentPart
  · exact not_reads_floatOf

theorem not_reads_fraction :
    ¬ Reads (fraction negative significand exponent) rest (.integer value) left := by
  intro read
  obtain ⟨run, _, -, read⟩ := reads_bind_iff.1 read
  dsimp only at read
  split at read
  · simp [reads_bind_iff] at read
  · exact not_reads_floatEnd read

end Floats

/-! ## Digits -/

theorem le_foldl_digits (value : Nat) (digits : List Char) :
    value ≤ digits.foldl (fun value digit => 10 * value + digitValue digit) value := by
  induction digits generalizing value with
  | nil => exact Nat.le_refl _
  | cons digit digits ih =>
    have := ih (10 * value + digitValue digit)
    rw [List.foldl_cons]
    omega

/-- The digits that are appended all fit exactly if the number that results does. -/
theorem appendDigits_eq_iff {digits : List Char} {value whole : Nat} (fits : value < Nat.pow 2 64) :
    appendDigits value digits = (whole, []) ↔
      whole = digits.foldl (fun value digit => 10 * value + digitValue digit) value ∧
        whole < Nat.pow 2 64 := by
  induction digits generalizing value with
  | nil =>
    simp only [appendDigits, Prod.mk.injEq, and_true, List.foldl_nil]
    omega
  | cons digit digits ih =>
    rw [appendDigits, List.foldl_cons, Nat.mul_comm]
    split
    · next fits => exact ih fits
    · next excess =>
      have := le_foldl_digits (10 * value + digitValue digit) digits
      simp only [Prod.mk.injEq, reduceCtorEq, and_false, false_iff, not_and]
      omega

/-- A whole part ends where its digits do. -/
theorem reads_wholeDigits {whole : List Char} (isWhole : IsWhole whole)
    (closed : ∀ c ∈ rest.head?, ¬ c.isDigit) : Reads wholeDigits (whole ++ rest) whole rest := by
  obtain ⟨⟨nonempty, isDigit⟩, zero⟩ := isWhole
  obtain ⟨c, run, rfl⟩ := List.exists_cons_of_ne_nil nonempty
  rw [wholeDigits, reads_look_bind_iff]
  simp only [List.cons_append, List.head?_cons]
  split
  · next isZero =>
    obtain ⟨rfl, rfl⟩ := List.cons_eq_cons.1 (zero (by rw [isZero]; rfl))
    have noDigit : ¬ (rest.head?.any Char.isDigit) := by
      simpa [Option.any_eq_true] using closed
    simp [noDigit]
  · have taken := Text.takeWhile_append_of_stops isDigit fun c found => Bool.eq_false_iff.mpr (closed c found)
    rw [if_pos (isDigit c List.mem_cons_self), digits, reads_look_bind_iff, reads_skip_bind_iff,
      ← List.cons_append, taken, List.drop_left]
    exact reads_pure _ _

/-! ## Integers -/

/-- The integers that 64 bits can hold, with or without a sign. -/
def Fits64 (n : Int) : Prop := -0x8000000000000000 ≤ n ∧ n < 0x10000000000000000

instance (n : Int) : Decidable (Fits64 n) := inferInstanceAs (Decidable (_ ∧ _))

theorem integerOf_eq_iff {value : Nat} {n : Int} :
    integerOf negative value = .integer n ↔
      if negative then value ≠ 0 ∧ value ≤ 0x8000000000000000 ∧ n = -value else n = value := by
  cases negative with
  | false => simpa [integerOf] using eq_comm
  | true =>
    rw [integerOf, if_pos rfl]
    split
    · next isFloat =>
      simp only [Bool.or_eq_true, decide_eq_true_eq, Nat.pow_eq] at isFloat
      simp only [reduceCtorEq, if_true, false_iff]
      omega
    · next isInteger =>
      simp only [Bool.or_eq_true, decide_eq_true_eq, Nat.pow_eq] at isInteger
      simp only [Number.integer.injEq, if_true]
      omega

theorem not_reads_wholeEnd {mark : Char} {whole excess : Nat} {n : Int}
    (marked : mark ∈ ['.', 'e', 'E']) :
    ¬ Reads (wholeEnd negative whole excess) (mark :: rest) (.integer n) left := by
  rw [wholeEnd, reads_look_bind_iff]
  simp only [List.mem_cons, List.not_mem_nil, or_false] at marked
  obtain rfl | rfl | rfl := marked
  · exact fun read => not_reads_fraction (reads_skip_bind_iff.1 read)
  · exact fun read => not_reads_exponentPart (reads_skip_bind_iff.1 read)
  · exact fun read => not_reads_exponentPart (reads_skip_bind_iff.1 read)

theorem reads_wholeEnd_iff {whole excess : Nat} {n : Int} (closed : Closed rest) :
    Reads (wholeEnd negative whole excess) rest (.integer n) left ↔
      left = rest ∧ excess = 0 ∧ integerOf negative whole = .integer n := by
  have ended : ∀ mark ∈ ['.', 'e', 'E'], rest.head? ≠ some mark := by
    have apart : ∀ mark ∈ ['.', 'e', 'E'], mark ∉ [' ', '\t', '\n', '\r', ',', ']', '\x7d'] := by simp
    exact fun mark marked same => apart mark marked (closed mark same)
  rw [wholeEnd, reads_look_bind_iff]
  split
  · next same => exact absurd same (ended _ (by decide))
  · next same => exact absurd same (ended _ (by decide))
  · next same => exact absurd same (ended _ (by decide))
  · split
    · next fits => simp [fits, eq_comm, and_comm]
    · next excess => simp [excess, not_reads_floatOf]

/-- What follows the whole part of a number is nothing, or makes it a float. -/
theorem tail_eq_nil_or_marked {fraction exponent : List Char} (isFraction : IsFraction fraction)
    (isExponent : IsExponent exponent) :
    fraction ++ exponent = [] ∨
      ∃ mark tail, fraction ++ exponent = mark :: tail ∧ mark ∈ ['.', 'e', 'E'] := by
  cases isFraction with
  | present => exact .inr ⟨_, _, rfl, by decide⟩
  | absent =>
    cases isExponent with
    | absent => exact .inl rfl
    | present marked => exact .inr ⟨_, _, rfl, List.mem_cons_of_mem _ marked⟩

theorem natAbs_of_integer? {whole : List Char} {n : Int}
    (meant : (Json.number negative whole []).integer? = some n) : n.natAbs = decimal whole := by
  cases negative with
  | false =>
    cases meant
    exact Int.natAbs_natCast _
  | true =>
    rw [Json.integer?] at meant
    split at meant
    · cases meant
    · cases meant
      rw [Int.natAbs_neg, Int.natAbs_natCast]

/-- The integer that plain digits mean, with 64 bits, is what is read. -/
theorem appendDigits_integerOf_iff {whole : List Char} {n : Int} :
    (appendDigits 0 whole).2.length = 0 ∧ integerOf negative (appendDigits 0 whole).1 = .integer n ↔
      (Json.number negative whole []).integer? = some n ∧ Fits64 n := by
  have all_fit : ∀ w, appendDigits 0 whole = (w, []) ↔ w = decimal whole ∧ w < 0x10000000000000000 :=
    fun w => appendDigits_eq_iff (Nat.two_pow_pos 64)
  by_cases small : decimal whole < 0x10000000000000000
  · rw [(all_fit _).2 ⟨rfl, small⟩, integerOf_eq_iff]
    cases negative with
    | false =>
      simp only [Json.integer?, List.length_nil, Option.some.injEq, true_and, Bool.false_eq_true,
        if_false, Fits64]
      omega
    | true =>
      simp only [Json.integer?, List.length_nil, true_and, if_true, Fits64]
      split
      · next zero => simp [zero]
      · next nonzero =>
        simp only [Option.some.injEq]
        omega
  · constructor
    · rintro ⟨none_left, -⟩
      have all := (all_fit (appendDigits 0 whole).1).1
        (Prod.ext rfl (List.length_eq_zero_iff.1 none_left))
      omega
    · rintro ⟨meant, least, greatest⟩
      have := natAbs_of_integer? meant
      omega

theorem reads_unsigned_iff {whole fraction exponent : List Char} {n : Int}
    (isWhole : IsWhole whole) (isFraction : IsFraction fraction) (isExponent : IsExponent exponent)
    (closed : Closed rest) :
    Reads (unsigned negative) (whole ++ (fraction ++ exponent ++ rest)) (.integer n) left ↔
      left = rest ∧ (Json.number negative whole (fraction ++ exponent)).integer? = some n ∧
        Fits64 n := by
  obtain plain | ⟨mark, tail, tail_eq, marked⟩ := tail_eq_nil_or_marked isFraction isExponent
  · rw [plain, List.nil_append, unsigned,
      (reads_wholeDigits isWhole closed.not_isDigit).bind_iff]
    exact (reads_wholeEnd_iff closed).trans (and_congr_right fun _ => appendDigits_integerOf_iff)
  · have noDigit : ∀ c ∈ (mark :: tail ++ rest).head?, ¬ c.isDigit := by
      have apart : ∀ c ∈ ['.', 'e', 'E'], ¬ c.isDigit := by simp
      rintro c ⟨⟩
      exact apart _ marked
    rw [tail_eq, unsigned, (reads_wholeDigits isWhole noDigit).bind_iff]
    constructor
    · intro read
      exact absurd read (not_reads_wholeEnd marked)
    · rintro ⟨-, value, -⟩
      cases negative <;> cases value

/-- **A number is read as an integer exactly if it is written with plain digits and has 64 bits.** -/
theorem reads_number_iff {whole fraction exponent : List Char} {n : Int}
    (isWhole : IsWhole whole) (isFraction : IsFraction fraction) (isExponent : IsExponent exponent)
    (closed : Closed rest) :
    Reads number ((if negative then ['-'] else []) ++ whole ++ (fraction ++ exponent) ++ rest)
        (.integer n) left ↔
      left = rest ∧ (Json.number negative whole (fraction ++ exponent)).integer? = some n ∧
        Fits64 n := by
  rw [number, reads_look_bind_iff]
  cases negative with
  | true =>
    simp only [if_true, List.cons_append, List.nil_append, List.head?_cons, reads_skip_bind_iff,
      List.drop_one, List.tail_cons, List.append_assoc]
    simpa only [List.append_assoc] using reads_unsigned_iff isWhole isFraction isExponent closed
  | false =>
    obtain ⟨c, run, rfl⟩ := List.exists_cons_of_ne_nil isWhole.1.1
    have noSign : ¬ (some c = some '-') := by
      rintro ⟨⟩
      exact absurd (isWhole.1.2 '-' List.mem_cons_self) (by decide)
    simp only [Bool.false_eq_true, if_false, List.nil_append, List.cons_append, List.head?_cons,
      if_neg noSign]
    simpa only [List.append_assoc, List.cons_append] using
      reads_unsigned_iff isWhole isFraction isExponent closed

end Reader

end ApiBindings.Document
