import ApiBindings.Proofs.IntegerLiterals

/-!
# Floating point literals

A floating point constant of a C header is a decimal number with a point or an exponent, or a decimal integer, and
may have a minus and a suffix.  The emitted code has digits on both sides of a point, but for a point at the very
end, and a number without point and exponent is no floating point number there.

Reading a literal takes off its parentheses and its suffix, and puts `.0` behind an integer.  The number stays the
same then, if it is one: without digits in front of the point, or with an exponent directly behind it, what comes
out is no floating point literal (`normalize_float_iff_portable`).
-/

namespace ApiBindings.Literal

set_option autoImplicit false

open ApiBindings.Text

/-! ## Floating point numbers of the emitted code -/

/-- The number that digits around a point stand for, times a power of ten. -/
def scaled (whole fraction : List Char) (power : Int) : Rat :=
  numberIn 10 (whole ++ fraction) * (10 : Rat) ^ (power - fraction.length)

/-- A digit, or an underscore among digits. -/
def isDigitOrLine (c : Char) : Bool := c.isDigit || c == '_'

/-- The digits that a text starts with, without the underscores behind the first of them. -/
def leadingDigits? (text : List Char) : Option (List Char) :=
  if text.head?.any Char.isDigit then some ((text.takeWhile isDigitOrLine).filter (· != '_')) else none

/-- The power of ten behind the digits of a floating point literal. -/
def emittedPower? : List Char → Option Int
  | [] => some 0
  | mark :: power =>
    if mark == 'e' || mark == 'E' then
      match power with
      | '-' :: digits => (numberOf? 10 Char.isDigit digits).map fun number => -(number : Int)
      | '+' :: digits => (numberOf? 10 Char.isDigit digits).map fun number => (number : Int)
      | digits => (numberOf? 10 Char.isDigit digits).map fun number => (number : Int)
    else none

/-- The number that the digits of a floating point literal stand for together with what is behind them: a point at
the end, a point with digits and perhaps an exponent, or an exponent. -/
def emittedTail? (whole : List Char) : List Char → Option Rat
  | [] => none
  | c :: rest =>
    if c ≠ '.' then (emittedPower? (c :: rest)).map (scaled whole [])
    else if rest.isEmpty then some (scaled whole [] 0)
    else (leadingDigits? rest).bind fun fraction =>
      (emittedPower? (rest.dropWhile isDigitOrLine)).map (scaled whole fraction)

/-- The number that a floating point literal of the emitted code stands for. -/
def emittedFloat? (text : List Char) : Option Rat :=
  (leadingDigits? text).bind fun whole => emittedTail? whole (text.dropWhile isDigitOrLine)

/-- The number that a floating point literal with an optional minus in front of it stands for. -/
def emittedSignedFloat? : List Char → Option Rat
  | '-' :: text => (emittedFloat? text).map (-·)
  | text => emittedFloat? text

/-! ## Floating point constants of C -/

def Exponent.value (power : Exponent) : Int :=
  if power.sign = ['-'] then -(numberIn 10 power.digits : Int) else numberIn 10 power.digits

namespace DecimalNumber

variable (number : DecimalNumber)

/-- Digits alone. -/
def isInteger : Bool := number.fraction.isNone && number.exponent.isNone

def value : Rat :=
  scaled number.whole (number.fraction.getD []) (number.exponent.elim 0 Exponent.value)

/-- There are digits in front of the point, and behind it if an exponent follows. -/
def Portable : Prop := number.whole ≠ [] ∧ (number.fraction = some [] → number.exponent.isNone = true)

instance : Decidable number.Portable := inferInstanceAs (Decidable (_ ∧ _))

/-- The number in the emitted code: a point and a zero are behind digits alone. -/
def emittedText : List Char := number.text ++ if number.isInteger then ['.', '0'] else []

end DecimalNumber

/-- A floating point literal of C, or a decimal integer. -/
structure FloatLiteral where
  number : DecimalNumber
  /-- With a zero in front, digits alone are an octal integer. -/
  leads : number.isInteger = true → number.whole.head? = some '0' → number.whole = ['0']

/-- A floating point number the way the value of a constant is written: with a minus, with a suffix, and in
parentheses. -/
structure FloatValue where
  negative : Bool
  literal : FloatLiteral
  suffix : List Char
  isSuffix : suffix ∈ [[], ['f'], ['F'], ['l'], ['L']]
  front : Blanks
  /-- The blanks inside each pair of parentheses, the outermost pair first. -/
  pairs : List (Blanks × Blanks)
  back : Blanks

namespace FloatValue

variable (value : FloatValue)

def minus : List Char := if value.negative then ['-'] else []

def spelling : String :=
  String.ofList (value.front.chars ++
    (enclose value.pairs (value.minus ++ (value.literal.number.text ++ value.suffix)) ++ value.back.chars))

def number : Rat := if value.negative then -value.literal.number.value else value.literal.number.value

end FloatValue

/-! ## Reading an emitted number -/

section Digits

variable {digits rest : List Char} (nonempty : digits ≠ []) (all : ∀ c ∈ digits, c.isDigit = true)
  (stops : ∀ c ∈ rest.head?, isDigitOrLine c = false)

include all in
theorem isDigitOrLine_of_digits : ∀ c ∈ digits, isDigitOrLine c = true := fun c mem => by
  rw [isDigitOrLine, all c mem, Bool.true_or]

include nonempty all stops in
theorem leadingDigits?_append : leadingDigits? (digits ++ rest) = some digits := by
  have taken : (digits ++ rest).takeWhile isDigitOrLine = digits :=
    takeWhile_append_of_stops (isDigitOrLine_of_digits all) stops
  have kept : digits.filter (· != '_') = digits := filter_ne_line all (by decide)
  obtain ⟨digit, more, rfl⟩ := List.exists_cons_of_ne_nil nonempty
  have starts : (digit :: more ++ rest).head?.any Char.isDigit = true := all digit List.mem_cons_self
  rw [leadingDigits?, if_pos starts, taken, kept]

include nonempty all stops in
/-- Reading goes on behind the digits. -/
theorem emittedFloat?_append : emittedFloat? (digits ++ rest) = emittedTail? digits rest := by
  have left : (digits ++ rest).dropWhile isDigitOrLine = rest :=
    dropWhile_append_of_stops (isDigitOrLine_of_digits all) stops
  rw [emittedFloat?, leadingDigits?_append nonempty all stops, left, Option.bind_some]

end Digits

theorem leadingDigits?_eq_none {text : List Char} (noDigit : ∀ c ∈ text.head?, c.isDigit = false) :
    leadingDigits? text = none := by
  cases text with
  | nil => rfl
  | cons c text =>
      have starts : (c :: text).head?.any Char.isDigit = false := noDigit c rfl
      rw [leadingDigits?, starts]
      rfl

theorem emittedPower?_text (power : Exponent) : emittedPower? power.text = some power.value := by
  obtain ⟨mark, isMark, sign, isSign, digits, nonempty, all⟩ := power
  have isDigit := List.all_eq_true.mp all
  have number : numberOf? 10 Char.isDigit digits = some (numberIn 10 digits) :=
    numberOf?_digits nonempty isDigit (by decide)
  have marked : (mark == 'e' || mark == 'E') = true := by rcases isMark with rfl | rfl <;> rfl
  simp only [List.mem_cons, List.not_mem_nil, or_false] at isSign
  simp only [Exponent.text, emittedPower?, marked, if_true]
  rcases isSign with rfl | rfl | rfl
  · rw [List.nil_append]
    -- The first digit is no sign.
    split
    · exact absurd (isDigit '-' List.mem_cons_self) (by decide)
    · exact absurd (isDigit '+' List.mem_cons_self) (by decide)
    · rw [number]
      rfl
  · simp [number, Exponent.value]
  · simp [number, Exponent.value]

/-- An exponent goes on with no digits and has no point. -/
theorem Exponent.head?_text (power : Exponent) :
    ∀ c ∈ power.text.head?, isDigitOrLine c = false ∧ c ≠ '.' := by
  intro c found
  obtain rfl : power.mark = c := Option.some.inj found
  rcases power.isMark with mark | mark <;> rw [mark] <;> decide

/-- Behind digits alone an exponent is read. -/
theorem emittedTail?_exponent (whole : List Char) (power : Exponent) :
    emittedTail? whole power.text = some (scaled whole [] power.value) := by
  have read := emittedPower?_text power
  have noPoint := (power.head?_text power.mark rfl).2
  rw [Exponent.text] at read ⊢
  rw [emittedTail?, if_pos noPoint, read, Option.map_some]

/-- A zero behind the point counts for nothing. -/
theorem scaled_zero (whole : List Char) : scaled whole ['0'] 0 = scaled whole [] 0 := by
  have tenth : (10 : Rat) ^ (0 - (['0'].length : Int)) = 1 / 10 := by decide +kernel
  have one : (10 : Rat) ^ (0 - (([] : List Char).length : Int)) = 1 := by decide +kernel
  have zero : digitNumber '0' = 0 := rfl
  simp only [scaled, numberIn_concat, List.append_nil, tenth, one, zero]
  grind

/-- Behind a point and digits an exponent is read, or none. -/
theorem emittedTail?_fraction (whole : List Char) {fraction rest : List Char} (nonempty : fraction ≠ [])
    (all : ∀ c ∈ fraction, c.isDigit = true) (stops : ∀ c ∈ rest.head?, isDigitOrLine c = false)
    {power : Int} (read : emittedPower? rest = some power) :
    emittedTail? whole ('.' :: (fraction ++ rest)) = some (scaled whole fraction power) := by
  have left : (fraction ++ rest).dropWhile isDigitOrLine = rest :=
    dropWhile_append_of_stops (isDigitOrLine_of_digits all) stops
  have goesOn : (fraction ++ rest).isEmpty = false := by simp [nonempty]
  simp only [emittedTail?, goesOn, leadingDigits?_append nonempty all stops, left, read]
  rfl

namespace DecimalNumber

variable (number : DecimalNumber)

theorem emittedPower?_powerText :
    emittedPower? number.powerText = some (number.exponent.elim 0 Exponent.value) := by
  rw [powerText]
  cases number.exponent with
  | none => rfl
  | some power => exact emittedPower?_text power

theorem head?_powerText : ∀ c ∈ number.powerText.head?, isDigitOrLine c = false ∧ c ≠ '.' := by
  rw [powerText]
  cases number.exponent with
  | none => exact fun c found => by cases found
  | some power => exact power.head?_text

/-- The emitted number behind the digits that it starts with. -/
def tailText : List Char :=
  match number.fraction, number.exponent with
  | none, none => ['.', '0']
  | none, some power => power.text
  | some digits, _ => '.' :: (digits ++ number.powerText)

theorem emittedText_eq : number.emittedText = number.whole ++ number.tailText := by
  rw [emittedText, text, mantissa, isInteger, tailText]
  cases found : number.fraction with
  | none => cases power : number.exponent <;> simp [powerText, power]
  | some digits => simp

theorem stops_tailText : ∀ c ∈ number.tailText.head?, isDigitOrLine c = false := by
  rw [tailText]
  cases number.fraction with
  | some digits =>
      rintro c ⟨⟩
      rfl
  | none =>
      cases number.exponent with
      | none =>
          rintro c ⟨⟩
          rfl
      | some power => exact fun c found => (power.head?_text c found).1

/-- Behind digits the rest of a number is read if an exponent does not follow its point directly. -/
theorem emittedTail?_tailText : emittedTail? number.whole number.tailText =
    if number.fraction = some [] → number.exponent.isNone = true then some number.value else none := by
  have stops : ∀ c ∈ number.powerText.head?, isDigitOrLine c = false := fun c found =>
    (number.head?_powerText c found).1
  rw [tailText, value]
  cases found : number.fraction with
  | none =>
      rw [if_pos (fun same => by cases same)]
      cases number.exponent with
      | none =>
          have read := emittedTail?_fraction number.whole (List.cons_ne_nil '0' []) (by simp) (by simp)
            (show emittedPower? [] = some 0 from rfl)
          exact read.trans (congrArg some (scaled_zero number.whole))
      | some power => exact emittedTail?_exponent number.whole power
  | some digits =>
      cases digits with
      | cons digit digits =>
          rw [if_pos (fun same => by cases same)]
          exact emittedTail?_fraction number.whole (List.cons_ne_nil digit digits)
            (number.isDigit_fraction _ found) stops number.emittedPower?_powerText
      | nil =>
          rw [powerText]
          cases number.exponent with
          | none => rfl
          | some power =>
              -- The mark of the exponent is no digit behind the point.
              have noDigits : leadingDigits? power.text = none := by
                refine leadingDigits?_eq_none fun c first => ?_
                have noDigit := (power.head?_text c first).1
                rw [isDigitOrLine, Bool.or_eq_false_iff] at noDigit
                exact noDigit.1
              have goesOn : power.text.isEmpty = false := rfl
              rw [if_neg fun portable => Bool.noConfusion (portable rfl)]
              change emittedTail? number.whole ('.' :: power.text) = none
              simp only [emittedTail?, goesOn, noDigits]
              rfl

/-- **The emitted code reads a decimal number as the number that it is, if there are digits where a point needs
them, and as no number otherwise.** -/
theorem emittedFloat?_emittedText :
    emittedFloat? number.emittedText = if number.Portable then some number.value else none := by
  rw [emittedText_eq]
  by_cases pointed : number.whole = []
  · -- Without digits in front the number starts with its point.
    have noDigits : leadingDigits? (number.whole ++ number.tailText) = none := by
      refine leadingDigits?_eq_none fun c first => ?_
      have nonempty := number.nonempty
      rw [pointed, List.nil_append] at first nonempty
      rw [tailText] at first
      cases found : number.fraction with
      | none => exact absurd (by rw [found]; rfl) nonempty
      | some digits =>
          rw [found] at first
          cases first
          rfl
    rw [if_neg fun portable => portable.1 pointed, emittedFloat?, noDigits]
    rfl
  · rw [emittedFloat?_append pointed number.isDigit_whole number.stops_tailText, emittedTail?_tailText]
    simp only [Portable, ne_eq, pointed, not_false_eq_true, true_and]

/-- A number is all digits exactly if it has no point and no exponent. -/
theorem isDigit_text_iff : (∀ c ∈ number.text, c.isDigit = true) ↔ number.isInteger = true := by
  rw [isInteger, Bool.and_eq_true, Option.isNone_iff_eq_none, Option.isNone_iff_eq_none]
  constructor
  · intro digits
    constructor
    · refine Option.eq_none_iff_forall_ne_some.mpr fun fraction found => ?_
      have point : '.' ∈ number.text := by simp [text, mantissa, found]
      exact absurd (digits '.' point) (by decide)
    · refine Option.eq_none_iff_forall_ne_some.mpr fun power found => ?_
      have mark : power.mark ∈ number.text := by simp [text, powerText, found, Exponent.text]
      have digit := digits power.mark mark
      rcases power.isMark with same | same <;> rw [same] at digit <;> cases digit
  · rintro ⟨noPoint, noPower⟩
    have whole : number.text = number.whole := by simp [text, mantissa, powerText, noPoint, noPower]
    rw [whole]
    exact number.isDigit_whole

theorem isAlphanum_or_mark_text : ∀ c ∈ number.text, c.isAlphanum = true ∨ c ∈ ['.', '+', '-'] := by
  intro c mem
  have part := number.isDecimalPart_text c mem
  rw [isDecimalPart, Bool.or_eq_true, List.contains_iff_mem] at part
  rcases part with digit | mark
  · exact .inl (isAlphanum_of_isDigit digit)
  · simp only [List.mem_cons, List.not_mem_nil, or_false] at mark
    rcases mark with rfl | rfl | rfl | rfl | rfl <;> decide

/-- No number starts with a minus. -/
theorem text_ne_minus (rest : List Char) : number.text ≠ '-' :: rest := by
  intro same
  obtain ⟨c, tail, mantissa, starts⟩ := number.exists_mantissa_eq_cons
  rw [text, mantissa, List.cons_append] at same
  obtain ⟨rfl, -⟩ := List.cons.inj same
  rcases starts with digit | ⟨point, -⟩
  · cases digit
  · cases point

theorem integral_text_iff : Integral number.text ↔ number.isInteger = true := by
  rw [← isDigit_text_iff]
  constructor
  · rintro ⟨digits, -, isDigit, same | same⟩
    · rw [same]
      exact isDigit
    · exact absurd same (number.text_ne_minus digits)
  · intro isDigit
    obtain ⟨c, tail, text, -⟩ := number.exists_text_eq_cons
    exact ⟨number.text, by simp [text], isDigit, .inl rfl⟩

theorem integral_minus_iff : Integral ('-' :: number.text) ↔ number.isInteger = true := by
  rw [← integral_text_iff]
  constructor
  · rintro ⟨digits, nonempty, isDigit, same | same⟩
    · rw [← same] at isDigit
      exact absurd (isDigit '-' List.mem_cons_self) (by decide)
    · exact ⟨digits, nonempty, isDigit, .inl (List.cons.inj same).2⟩
  · rintro ⟨digits, nonempty, isDigit, same | same⟩
    · exact ⟨digits, nonempty, isDigit, .inr (congrArg _ same)⟩
    · exact absurd same (number.text_ne_minus digits)

end DecimalNumber

/-! ## Floating point constants -/

namespace FloatValue

variable (value : FloatValue)

theorem letters : value.suffix.all (['u', 'U', 'l', 'L', 'f', 'F'].contains ·) = true := by
  have listed : [[], ['f'], ['F'], ['l'], ['L']].all
      (·.all (['u', 'U', 'l', 'L', 'f', 'F'].contains ·)) = true := by decide
  exact List.all_eq_true.mp listed _ value.isSuffix

/-- The minus and the number, as lexemes. -/
def lexemes : List Lexeme :=
  (if value.negative then [.minus] else []) ++ [.decimal value.literal.number value.suffix value.letters]

theorem apart_lexemes : value.lexemes.IsChain Lexeme.Apart := by
  rw [lexemes]
  cases value.negative with
  | false => exact .singleton _
  | true => exact .cons_cons (.inl trivial) (.singleton _)

theorem text_lexemes : value.lexemes.flatMap Lexeme.text =
    value.minus ++ (value.literal.number.text ++ value.suffix) := by
  rw [lexemes, minus]
  cases value.negative <;> simp [Lexeme.text, Lexeme.minus]

theorem rewritten_lexemes : value.lexemes.flatMap Lexeme.rewritten =
    value.minus ++ value.literal.number.text := by
  rw [lexemes, minus]
  cases value.negative <;> simp [Lexeme.rewritten, Lexeme.minus]

/-- Between the parentheses there are letters, digits, points and signs only. -/
theorem isAlphanum_or_mark :
    ∀ c ∈ value.lexemes.flatMap Lexeme.text, c.isAlphanum = true ∨ c ∈ ['.', '+', '-'] := by
  rw [text_lexemes]
  refine List.forall_mem_append.mpr ⟨fun c mem => ?_, List.forall_mem_append.mpr ⟨fun c mem => ?_, fun c mem => ?_⟩⟩
  · rw [minus] at mem
    split at mem
    · rw [List.mem_singleton.mp mem]
      exact .inr (by decide)
    · cases mem
  · exact value.literal.number.isAlphanum_or_mark_text c mem
  · exact .inl (isAlphanum_of_isSuffixLetter (List.all_eq_true.mp value.letters c mem))

theorem ne_of_mem {c other : Char} (mem : c ∈ value.lexemes.flatMap Lexeme.text)
    (noLetter : other.isAlphanum = false) (noMark : other ∉ ['.', '+', '-']) : c ≠ other := by
  rintro rfl
  rcases value.isAlphanum_or_mark c mem with letter | mark
  · exact Bool.false_ne_true (noLetter.symm.trans letter)
  · exact noMark mark

theorem solid_text : Solid (value.lexemes.flatMap Lexeme.text) where
  ne_nil := by
    obtain ⟨c, tail, text, -⟩ := value.literal.number.exists_text_eq_cons
    simp [text_lexemes, text]
  noBlank := by
    intro c mem
    rcases value.isAlphanum_or_mark c mem with letter | mark
    · exact not_isBlank_of_isAlphanum letter
    · have marks : ['.', '+', '-'].all (!isBlank ·) = true := by decide
      have noBlank := List.all_eq_true.mp marks c mark
      rwa [Bool.not_eq_true'] at noBlank

theorem bare_spelling : bare value.spelling = value.lexemes.flatMap Lexeme.text := by
  have noParens : ∀ c ∈ value.lexemes.flatMap Lexeme.text, c ≠ '(' ∧ c ≠ ')' := fun c mem =>
    ⟨value.ne_of_mem mem (by decide) (by decide), value.ne_of_mem mem (by decide) (by decide)⟩
  rw [spelling, ← text_lexemes, bare_enclose_solid value.solid_text noParens]

/-- A floating point constant is emitted without its suffix, and without the parentheses and the blanks around it; a
point and a zero are put behind an integer. -/
theorem normalize_spelling {type : ScalarType} (float : type.isFloat = true) :
    normalize type value.spelling = String.ofList (value.minus ++ value.literal.number.emittedText) := by
  have noText : type ≠ .str := by
    rintro rfl
    cases float
  have unquoted : ∀ c ∈ (value.lexemes.flatMap Lexeme.text).head?, c ≠ '"' := fun c first =>
    value.ne_of_mem (List.mem_of_mem_head? first) (by decide) (by decide)
  have integral : isIntegral (value.minus ++ value.literal.number.text) = value.literal.number.isInteger := by
    rw [Bool.eq_iff_iff, isIntegral_iff, minus]
    split
    · exact value.literal.number.integral_minus_iff
    · exact value.literal.number.integral_text_iff
  rw [normalize_of_bare noText value.apart_lexemes value.bare_spelling unquoted, rewritten_lexemes, integral,
    float, DecimalNumber.emittedText]
  cases value.literal.number.isInteger <;> simp

/-- The emitted code reads the minus and the number behind it. -/
theorem emittedSignedFloat?_eq : emittedSignedFloat? (value.minus ++ value.literal.number.emittedText) =
    if value.literal.number.Portable then some value.number else none := by
  rw [minus, number]
  split
  · have read := value.literal.number.emittedFloat?_emittedText
    simp only [List.cons_append, List.nil_append, emittedSignedFloat?, read]
    split <;> rfl
  · rw [List.nil_append, ← value.literal.number.emittedFloat?_emittedText]
    unfold emittedSignedFloat?
    split
    · next rest same =>
        obtain ⟨c, tail, text, -⟩ := value.literal.number.exists_text_eq_cons
        rw [DecimalNumber.emittedText, text, List.cons_append] at same
        obtain ⟨rfl, -⟩ := List.cons.inj same
        exact absurd text (value.literal.number.text_ne_minus tail)
    · rfl

end FloatValue

/-- **A floating point constant is emitted as its digits, and these stand for the same number if there are digits in
front of a point and behind it where an exponent follows; otherwise they are no floating point literal.**  There may
be a minus, any suffix and any number of parentheses, with blanks inside and around them. -/
theorem normalize_float_iff_portable {type : ScalarType} (float : type.isFloat = true) (value : FloatValue) :
    normalize type value.spelling = String.ofList (value.minus ++ value.literal.number.emittedText) ∧
    emittedSignedFloat? (normalize type value.spelling).toList =
      if value.literal.number.Portable then some value.number else none := by
  have text := value.normalize_spelling float
  refine ⟨text, ?_⟩
  rw [text, String.toList_ofList]
  exact value.emittedSignedFloat?_eq

/-- The value `(( -12.50E+2L))`. -/
def negativeValue : FloatValue where
  negative := true
  literal :=
    { number := ⟨['1', '2'], some ['5', '0'], some ⟨'E', .inr rfl, ['+'], by decide, ['2'], by decide, rfl⟩,
        by decide, rfl⟩
      leads := by decide }
  suffix := ['L']
  isSuffix := by decide
  front := .none
  pairs := [(.none, .none), (.space, .none)]
  back := .none

theorem normalize_negativeValue : ScalarType.f64.isFloat = true ∧
    negativeValue.spelling = "(( -12.50E+2L))" ∧ normalize .f64 "(( -12.50E+2L))" = "-12.50E+2" ∧
    emittedSignedFloat? "-12.50E+2".toList = some (-1250) := by
  have float : ScalarType.f64.isFloat = true := rfl
  have spelled : negativeValue.spelling = "(( -12.50E+2L))" := by decide +kernel
  have written : String.ofList (negativeValue.minus ++ negativeValue.literal.number.emittedText) =
      "-12.50E+2" := by decide +kernel
  have number : negativeValue.number = -1250 := by decide +kernel
  obtain ⟨text, read⟩ := normalize_float_iff_portable float negativeValue
  rw [text, if_pos (by decide), written, number] at read
  rw [spelled, written] at text
  exact ⟨float, spelled, text, read⟩

/-- The value `.5`. -/
def half : FloatValue where
  negative := false
  literal := { number := ⟨[], some ['5'], none, by decide, rfl⟩, leads := by decide }
  suffix := []
  isSuffix := by decide
  front := .none
  pairs := []
  back := .none

/-- A point without digits in front of it is emitted as it is, and starts no number there; the same goes for an
exponent directly behind a point. -/
theorem bare_point_kept : half.spelling = ".5" ∧ half.number = 1 / 2 ∧ normalize .f32 ".5" = ".5" ∧
    emittedSignedFloat? ".5".toList = none ∧ normalize .f64 "5.e3" = "5.e3" ∧
    emittedSignedFloat? "5.e3".toList = none := by
  decide +kernel

end ApiBindings.Literal
