import ApiBindings.Proofs.DecimalNumbers
import ApiBindings.Proofs.Parentheses

/-!
# Lexemes

The value of a constant is an expression of identifiers, decimal and hexadecimal numbers with their suffixes, and
single characters such as operators, parentheses and blanks.  These are the lexemes of C that matter here.

Put one behind the other, lexemes are cut apart again as long as no two identifiers or numbers touch
(`tokens_flatMap`).  Each kind is read to its end and no further whatever stands behind it: the digits of an
identifier stay in it, the digits of a hexadecimal number take no suffix for digits and no `e` for an exponent, and
a sign belongs to an exponent only where a digit follows.  So an expression is written anew lexeme by lexeme
(`normalize_lexemes`), apart from parentheses and blanks around all of it and from texts in quotes.
-/

namespace ApiBindings.Literal

set_option autoImplicit false

open ApiBindings.Text

/-! ## Lexemes of C -/

/-- A character that stands for itself: no ASCII letter or digit, no underscore and no point. -/
def isSymbol (c : Char) : Bool := !(isWordPart c || c == '.')

/-- A part of an expression of C. -/
inductive Lexeme where
  /-- An identifier. -/
  | word (first : Char) (rest : List Char) (starts : isWordStart first = true)
      (goesOn : rest.all isWordPart = true)
  /-- A decimal number with any suffix of `u`, `l` and `f` in either case. -/
  | decimal (number : DecimalNumber) (suffix : List Char)
      (letters : suffix.all (['u', 'U', 'l', 'L', 'f', 'F'].contains ·) = true)
  /-- Hexadecimal digits behind `0x`, or behind `0X`, with any suffix of `u` and `l` in either case. -/
  | hex (capital : Bool) (digits : List Char) (nonempty : digits ≠ []) (all : digits.all isHexDigit = true)
      (suffix : List Char) (letters : suffix.all (['u', 'U', 'l', 'L'].contains ·) = true)
  /-- Any other character. -/
  | symbol (c : Char) (other : isSymbol c = true)

namespace Lexeme

def minus : Lexeme := .symbol '-' rfl

/-- A hexadecimal number without its suffix. -/
def hexText (capital : Bool) (digits : List Char) : List Char :=
  '0' :: (if capital then 'X' else 'x') :: digits

def text : Lexeme → List Char
  | word first rest _ _ => first :: rest
  | decimal number suffix _ => number.text ++ suffix
  | hex capital digits _ _ suffix _ => hexText capital digits ++ suffix
  | symbol c _ => [c]

/-- The lexeme in the emitted code: a number has no suffix there, and a complement is written `!`. -/
def rewritten : Lexeme → List Char
  | word first rest _ _ => first :: rest
  | decimal number _ _ => number.text
  | hex capital digits _ _ _ _ => hexText capital digits
  | symbol c _ => if c = '~' then ['!'] else [c]

/-- The token that reading makes of the lexeme. -/
def token : Lexeme → Token
  | word first rest _ _ => .word (first :: rest)
  | decimal number suffix _ => .number number.text suffix
  | hex capital digits _ _ suffix _ => .number (hexText capital digits) suffix
  | symbol c _ => .symbol c

def IsSymbol : Lexeme → Prop
  | symbol _ _ => True
  | _ => False

instance : DecidablePred IsSymbol := fun lexeme =>
  match lexeme with
  | symbol _ _ => .isTrue trivial
  | word _ _ _ _ | decimal _ _ _ | hex _ _ _ _ _ _ => .isFalse id

/-- Neighbours that are not both identifiers or numbers. -/
def Apart (left right : Lexeme) : Prop := left.IsSymbol ∨ right.IsSymbol

instance : DecidableRel Apart := fun left right =>
  inferInstanceAs (Decidable (left.IsSymbol ∨ right.IsSymbol))

theorem emitted_token (lexeme : Lexeme) : lexeme.token.emitted = lexeme.rewritten := by
  cases lexeme <;> rfl

end Lexeme

/-! ## Where a lexeme ends -/

/-- Nothing follows, or a symbol. -/
abbrev StartsWithSymbol (rest : List Char) : Prop := ∀ c ∈ rest.head?, isSymbol c = true

theorem not_isAlphanum_of_isSymbol {c : Char} (symbol : isSymbol c = true) : c.isAlphanum = false := by
  rw [isSymbol, Bool.not_eq_true', Bool.or_eq_false_iff, isWordPart, Bool.or_eq_false_iff] at symbol
  exact symbol.1.1

section Symbols

variable {rest : List Char} (symbols : StartsWithSymbol rest)

include symbols

theorem StartsWithSymbol.not_isWordPart : ∀ c ∈ rest.head?, isWordPart c = false := by
  intro c found
  have symbol := symbols c found
  rw [isSymbol, Bool.not_eq_true', Bool.or_eq_false_iff] at symbol
  exact symbol.1

/-- A class of letters and digits ends in front of a symbol. -/
theorem StartsWithSymbol.stops {p : Char → Bool} (alphanumeric : ∀ c, p c = true → c.isAlphanum = true) :
    ∀ c ∈ rest.head?, p c = false := by
  intro c found
  rw [← Bool.not_eq_true]
  intro inside
  exact Bool.false_ne_true ((not_isAlphanum_of_isSymbol (symbols c found)).symm.trans (alphanumeric c inside))

end Symbols

/-- Behind the letters of a suffix a class ends that has none of these letters and does not go on behind them. -/
theorem stops_suffix_append {p : Char → Bool} {letters suffix rest : List Char}
    (listed : suffix.all (letters.contains ·) = true) (outside : letters.all (!p ·) = true)
    (stops : ∀ c ∈ rest.head?, p c = false) : ∀ c ∈ (suffix ++ rest).head?, p c = false := by
  cases suffix with
  | nil => exact stops
  | cons letter suffix =>
      intro c found
      obtain rfl : letter = c := Option.some.inj found
      have mem := List.contains_iff_mem.mp (List.all_eq_true.mp listed letter List.mem_cons_self)
      have other := List.all_eq_true.mp outside letter mem
      rwa [Bool.not_eq_true'] at other

theorem isAlphanum_of_mem {letters : List Char} (all : letters.all Char.isAlphanum = true) {c : Char}
    (listed : letters.contains c = true) : c.isAlphanum = true :=
  List.all_eq_true.mp all c (List.contains_iff_mem.mp listed)

theorem isAlphanum_of_isSuffixLetter {c : Char} (letter : isSuffixLetter c = true) : c.isAlphanum = true :=
  isAlphanum_of_mem (by decide) letter

/-- In front of a symbol a decimal number ends. -/
theorem StartsWithSymbol.endsDecimal {rest : List Char} (symbols : StartsWithSymbol rest) :
    EndsDecimal rest := by
  intro c found
  have noDigit : c.isDigit = false := symbols.stops (fun _ => isAlphanum_of_isDigit) c found
  have noMark : ['.', 'e', 'E', 'x', 'X'].contains c = false := by
    rw [← Bool.not_eq_true, List.contains_iff_mem]
    intro mem
    have marks : ['.', 'e', 'E', 'x', 'X'].all (!isSymbol ·) = true := by decide
    have noSymbol := List.all_eq_true.mp marks c mem
    rw [symbols c found] at noSymbol
    cases noSymbol
  rw [extendsDecimal, noDigit, noMark]
  rfl

/-! ## One lexeme in front of a text -/

theorem nextToken_word {first : Char} {rest behind : List Char} (starts : isWordStart first = true)
    (goesOn : rest.all isWordPart = true) (ends : StartsWithSymbol behind) :
    nextToken first (rest ++ behind) = .word (first :: rest) := by
  have taken : (rest ++ behind).takeWhile isWordPart = rest :=
    takeWhile_append_of_stops (List.all_eq_true.mp goesOn) ends.not_isWordPart
  rw [nextToken, if_pos starts, taken]

theorem nextToken_number {c : Char} {tail suffix behind : List Char} (noWord : isWordStart c = false)
    (starts : startsNumber (c :: (tail ++ (suffix ++ behind))) = true)
    (read : numeral (c :: (tail ++ (suffix ++ behind))) = c :: tail)
    (letters : suffix.all isSuffixLetter = true) (ends : StartsWithSymbol behind) :
    nextToken c (tail ++ (suffix ++ behind)) = .number (c :: tail) suffix := by
  have taken : (suffix ++ behind).takeWhile isSuffixLetter = suffix :=
    takeWhile_append_of_stops (List.all_eq_true.mp letters) (ends.stops fun _ => isAlphanum_of_isSuffixLetter)
  have left : (c :: (tail ++ (suffix ++ behind))).drop (c :: tail).length = suffix ++ behind :=
    List.drop_left
  simp only [nextToken, noWord, starts, read, left, taken]
  rfl

theorem nextToken_symbol {c : Char} (other : isSymbol c = true) (behind : List Char) :
    nextToken c behind = .symbol c := by
  have noDigit : c.isDigit = false := by
    rw [← Bool.not_eq_true]
    intro digit
    exact Bool.false_ne_true ((not_isAlphanum_of_isSymbol other).symm.trans (isAlphanum_of_isDigit digit))
  rw [isSymbol, Bool.not_eq_true', Bool.or_eq_false_iff, isWordPart, Bool.or_eq_false_iff,
    Char.isAlphanum, Bool.or_eq_false_iff] at other
  obtain ⟨⟨⟨noLetter, -⟩, noLine⟩, noPoint⟩ := other
  simp only [nextToken, isWordStart, startsNumber, noLetter, noLine, noDigit, noPoint]
  rfl

/-- The token that starts a text is the first of its tokens. -/
theorem tokens_append_of_nextToken {c : Char} {tail behind : List Char} {token : Token}
    (read : nextToken c (tail ++ behind) = token) (source : token.source = c :: tail) :
    tokens (c :: tail ++ behind) = token :: tokens behind := by
  have left : (c :: (tail ++ behind)).drop (c :: tail).length = behind := List.drop_left
  rw [List.cons_append, tokens, read, source, left]

/-- A number and its suffix are one token. -/
theorem tokens_append_number {c : Char} {tail suffix behind : List Char} (noWord : isWordStart c = false)
    (starts : startsNumber (c :: (tail ++ (suffix ++ behind))) = true)
    (read : numeral (c :: tail ++ (suffix ++ behind)) = c :: tail)
    (letters : suffix.all isSuffixLetter = true) (ends : StartsWithSymbol behind) :
    tokens (c :: tail ++ suffix ++ behind) = .number (c :: tail) suffix :: tokens behind := by
  have token := nextToken_number noWord starts read letters ends
  rw [← List.append_assoc] at token
  exact tokens_append_of_nextToken token rfl

theorem numeral_hex (capital : Bool) {digits rest : List Char} (all : digits.all isHexDigit = true)
    (ends : ∀ c ∈ rest.head?, isHexDigit c = false) :
    numeral (Lexeme.hexText capital digits ++ rest) = Lexeme.hexText capital digits := by
  have taken : (digits ++ rest).takeWhile isHexDigit = digits :=
    takeWhile_append_of_stops (List.all_eq_true.mp all) ends
  cases capital <;> simp [Lexeme.hexText, numeral, taken]

/-- The letters behind a hexadecimal number are those behind a decimal one without `f`, which is a digit. -/
theorem isSuffixLetter_of_hex {suffix : List Char} (letters : suffix.all (['u', 'U', 'l', 'L'].contains ·) = true) :
    suffix.all isSuffixLetter = true := by
  rw [List.all_eq_true] at letters ⊢
  intro c mem
  have all : ['u', 'U', 'l', 'L'].all isSuffixLetter = true := by decide
  exact List.all_eq_true.mp all c (List.contains_iff_mem.mp (letters c mem))

/-- **In front of a text that does not go on with it, a lexeme is read as one token.** -/
theorem tokens_append (lexeme : Lexeme) {behind : List Char}
    (ends : lexeme.IsSymbol ∨ StartsWithSymbol behind) :
    tokens (lexeme.text ++ behind) = lexeme.token :: tokens behind := by
  cases lexeme with
  | word first rest starts goesOn =>
      exact tokens_append_of_nextToken (nextToken_word starts goesOn (ends.resolve_left id)) rfl
  | decimal number suffix letters =>
      have symbols := ends.resolve_left id
      have apart : EndsDecimal (suffix ++ behind) :=
        stops_suffix_append letters (by decide) symbols.endsDecimal
      have read := number.numeral_append apart
      obtain ⟨c, tail, text, noWord, starts⟩ := number.exists_text_eq_cons
      simp only [Lexeme.text, Lexeme.token, text] at read ⊢
      exact tokens_append_number noWord (starts _) read letters symbols
  | hex capital digits nonempty all suffix letters =>
      have symbols := ends.resolve_left id
      have apart : ∀ c ∈ (suffix ++ behind).head?, isHexDigit c = false :=
        stops_suffix_append letters (by decide) (symbols.stops fun _ => isAlphanum_of_isHexDigit)
      have read := numeral_hex capital all apart
      exact tokens_append_number rfl rfl read (isSuffixLetter_of_hex letters) symbols
  | symbol c other => exact tokens_append_of_nextToken (nextToken_symbol other _) rfl

/-! ## Lexemes behind each other -/

theorem Lexeme.IsSymbol.startsWithSymbol {lexeme : Lexeme} (symbol : lexeme.IsSymbol) (rest : List Char) :
    StartsWithSymbol (lexeme.text ++ rest) := by
  cases lexeme with
  | symbol c other =>
      intro head found
      obtain rfl : c = head := Option.some.inj found
      exact other
  | word | decimal | hex => cases symbol

/-- **Lexemes that do not touch are cut apart where they were put together.** -/
theorem tokens_flatMap {lexemes : List Lexeme} (apart : lexemes.IsChain Lexeme.Apart) :
    tokens (lexemes.flatMap Lexeme.text) = lexemes.map Lexeme.token := by
  induction apart with
  | nil => rw [List.flatMap_nil, List.map_nil, tokens]
  | singleton lexeme =>
      have last : tokens (lexeme.text ++ []) = lexeme.token :: tokens [] :=
        tokens_append lexeme (.inr fun c found => by cases found)
      rw [List.flatMap_cons, List.flatMap_nil, last, tokens]
      rfl
  | @cons_cons left right lexemes touch _ ih =>
      have ends : left.IsSymbol ∨ StartsWithSymbol ((right :: lexemes).flatMap Lexeme.text) :=
        touch.imp_right fun symbol => symbol.startsWithSymbol _
      rw [List.flatMap_cons, tokens_append left ends, ih]
      rfl

theorem emitted_flatMap {lexemes : List Lexeme} (apart : lexemes.IsChain Lexeme.Apart) :
    emitted (lexemes.flatMap Lexeme.text) = lexemes.flatMap Lexeme.rewritten := by
  rw [emitted, tokens_flatMap apart, List.flatMap_map]
  simp only [Lexeme.emitted_token]

/-! ## Expressions -/

/-- Digits, with an optional minus in front of them, and nothing else. -/
def Integral (text : List Char) : Prop :=
  ∃ digits, digits ≠ [] ∧ (∀ c ∈ digits, c.isDigit = true) ∧ (text = digits ∨ text = '-' :: digits)

theorem isIntegral_iff {text : List Char} : isIntegral text = true ↔ Integral text := by
  have plain (digits : List Char) : (!digits.isEmpty && digits.all Char.isDigit) = true ↔
      digits ≠ [] ∧ ∀ c ∈ digits, c.isDigit = true := by
    simp
  constructor
  · intro integral
    unfold isIntegral at integral
    split at integral
    · obtain ⟨nonempty, digits⟩ := (plain _).mp integral
      exact ⟨_, nonempty, digits, .inr rfl⟩
    · obtain ⟨nonempty, digits⟩ := (plain _).mp integral
      exact ⟨_, nonempty, digits, .inl rfl⟩
  · rintro ⟨digits, nonempty, isDigit, rfl | rfl⟩
    · unfold isIntegral
      split
      · exact absurd (isDigit '-' List.mem_cons_self) (by decide)
      · exact (plain _).mpr ⟨nonempty, isDigit⟩
    · exact (plain _).mpr ⟨nonempty, isDigit⟩

/-- A text that stands for itself as a whole: it has no blanks around it, does not start with a quote and is not put
in a pair of parentheses. -/
structure Unwrapped (text : List Char) : Prop where
  start : ∀ c ∈ text.head?, isBlank c = false
  stop : ∀ c ∈ text.getLast?, isBlank c = false
  unquoted : ∀ c ∈ text.head?, c ≠ '"'
  unpaired : Unpaired text

theorem Unwrapped.bare_eq {text : List Char} (unwrapped : Unwrapped text) :
    bare (String.ofList text) = text := by
  have noPair := enclosed?_eq_none_iff.mpr unwrapped.unpaired
  rw [bare, String.toList_ofList, trim_of_ends unwrapped.start unwrapped.stop, stripParens_of_none noPair]

/-- What is left of a literal without parentheses and blanks around it is rewritten lexeme by lexeme. -/
theorem normalize_of_bare {type : ScalarType} (noText : type ≠ .str) {literal : String} {lexemes : List Lexeme}
    (apart : lexemes.IsChain Lexeme.Apart) (left : bare literal = lexemes.flatMap Lexeme.text)
    (unquoted : ∀ c ∈ (lexemes.flatMap Lexeme.text).head?, c ≠ '"') :
    normalize type literal = String.ofList (
      if type.isFloat && isIntegral (lexemes.flatMap Lexeme.rewritten) then
        lexemes.flatMap Lexeme.rewritten ++ ['.', '0']
      else lexemes.flatMap Lexeme.rewritten) := by
  have changed : isVerbatim type (lexemes.flatMap Lexeme.text) = false :=
    isVerbatim_eq_false_iff.mpr ⟨noText, fun quoted => unquoted _ quoted rfl⟩
  simp only [normalize, left, changed, emitted_flatMap apart]
  rfl

/-- **An expression is rewritten lexeme by lexeme**: numbers lose their suffixes, a complement is written `!`, and
all else stays.  For floating point types there is `.0` behind an expression that comes out as digits with an
optional minus. -/
theorem normalize_lexemes {lexemes : List Lexeme} (apart : lexemes.IsChain Lexeme.Apart)
    (unwrapped : Unwrapped (lexemes.flatMap Lexeme.text)) (type : ScalarType) :
    (type.isFloat = false → type ≠ .str →
      normalize type (String.ofList (lexemes.flatMap Lexeme.text)) =
        String.ofList (lexemes.flatMap Lexeme.rewritten)) ∧
    (type.isFloat = true → Integral (lexemes.flatMap Lexeme.rewritten) →
      normalize type (String.ofList (lexemes.flatMap Lexeme.text)) =
        String.ofList (lexemes.flatMap Lexeme.rewritten ++ ['.', '0'])) ∧
    (type.isFloat = true → ¬ Integral (lexemes.flatMap Lexeme.rewritten) →
      normalize type (String.ofList (lexemes.flatMap Lexeme.text)) =
        String.ofList (lexemes.flatMap Lexeme.rewritten)) := by
  have rewrites (noText : type ≠ .str) := normalize_of_bare noText apart unwrapped.bare_eq unwrapped.unquoted
  have floats (float : type.isFloat = true) : type ≠ .str := by
    rintro rfl
    cases float
  refine ⟨fun noFloat noText => ?_, fun float integral => ?_, fun float other => ?_⟩
  · rw [rewrites noText, noFloat]
    rfl
  · rw [rewrites (floats float), float, isIntegral_iff.mpr integral]
    rfl
  · rw [rewrites (floats float), float, Bool.eq_false_iff.mpr (mt isIntegral_iff.mp other)]
    rfl

/-- The lexemes of `(~0xFEul)+K_2u-(2.5e-3f)`: the first and the last parenthesis are no pair, the `E` is a digit
and `2u` is no number. -/
def mixedLexemes : List Lexeme :=
  [.symbol '(' rfl, .symbol '~' rfl, .hex false ['F', 'E'] (by decide) (by decide) ['u', 'l'] (by decide),
    .symbol ')' rfl, .symbol '+' rfl, .word 'K' ['_', '2', 'u'] rfl rfl, .minus, .symbol '(' rfl,
    .decimal ⟨['2'], some ['5'], some ⟨'e', .inl rfl, ['-'], by decide, ['3'], by decide, rfl⟩, by decide, rfl⟩
      ['f'] (by decide),
    .symbol ')' rfl]

/-- The lexemes of `-4f`. -/
def negativeFour : List Lexeme :=
  [.minus, .decimal ⟨['4'], none, none, by decide, rfl⟩ ['f'] (by decide)]

theorem mixedLexemes_unwrapped : Unwrapped (mixedLexemes.flatMap Lexeme.text) where
  start := by rintro c ⟨⟩; rfl
  stop := by rintro c ⟨⟩; rfl
  unquoted := by rintro c ⟨⟩; decide
  unpaired := enclosed?_eq_none_iff.mp (by decide)

theorem negativeFour_unwrapped : Unwrapped (negativeFour.flatMap Lexeme.text) where
  start := by rintro c ⟨⟩; rfl
  stop := by rintro c ⟨⟩; rfl
  unquoted := by rintro c ⟨⟩; decide
  unpaired := enclosed?_eq_none_iff.mp (by decide)

theorem normalize_mixedLexemes :
    mixedLexemes.IsChain Lexeme.Apart ∧ Unwrapped (mixedLexemes.flatMap Lexeme.text) ∧
    String.ofList (mixedLexemes.flatMap Lexeme.text) = "(~0xFEul)+K_2u-(2.5e-3f)" ∧
    normalize .u64 "(~0xFEul)+K_2u-(2.5e-3f)" = "(!0xFE)+K_2u-(2.5e-3)" ∧
    normalize .f32 "(~0xFEul)+K_2u-(2.5e-3f)" = "(!0xFE)+K_2u-(2.5e-3)" ∧
    normalize .f64 "-4f" = "-4.0" := by
  have apart : mixedLexemes.IsChain Lexeme.Apart := by decide
  have spelled : String.ofList (mixedLexemes.flatMap Lexeme.text) = "(~0xFEul)+K_2u-(2.5e-3f)" := by
    decide +kernel
  have rewritten : String.ofList (mixedLexemes.flatMap Lexeme.rewritten) = "(!0xFE)+K_2u-(2.5e-3)" := by
    decide +kernel
  have other : ¬ Integral (mixedLexemes.flatMap Lexeme.rewritten) := mt isIntegral_iff.mpr (by decide)
  have integral : Integral (negativeFour.flatMap Lexeme.rewritten) := isIntegral_iff.mp (by decide)
  have whole := (normalize_lexemes apart mixedLexemes_unwrapped .u64).1 rfl (by decide)
  have float := (normalize_lexemes apart mixedLexemes_unwrapped .f32).2.2 rfl other
  have four := (normalize_lexemes (by decide) negativeFour_unwrapped .f64).2.1 rfl integral
  rw [spelled, rewritten] at whole float
  refine ⟨apart, mixedLexemes_unwrapped, spelled, whole, float, ?_⟩
  have same : String.ofList (negativeFour.flatMap Lexeme.text) = "-4f" := by decide +kernel
  rw [same] at four
  rw [four]
  decide +kernel

end ApiBindings.Literal
