import ApiBindings.Registry.ScalarType
import ApiBindings.Text.Blank

/-!
# Literals of constants

A constant's value is written in a document the way C headers write it: `(~0ULL)`, `1000.0f`, `0x7FL`.
The emitted code has no number suffixes, complements with `!` and asks for a point in a floating point
literal.

A literal is read in three steps.  Parentheses around the whole text go, as long as what they hold is
balanced.  The rest is cut into tokens: identifiers, numbers with their suffix letters, and single
characters.  Each token is then written anew.  `sourceOf_tokens` states that cutting loses nothing, so
what the result drops is what `Token.emitted` drops.
-/

namespace ApiBindings.Literal

set_option autoImplicit false

open ApiBindings.Text

/-! ## Enclosing parentheses -/

/-- Whether the parentheses of a text match, `depth` of them being open before it. -/
def balancedFrom (depth : Nat) : List Char → Bool
  | [] => depth == 0
  | c :: rest =>
    if c = '(' then balancedFrom (depth + 1) rest
    else if c = ')' then
      match depth with
      | 0 => false
      | open_ + 1 => balancedFrom open_ rest
    else balancedFrom depth rest

/-- Whether the parentheses of a text match. -/
def balanced (text : List Char) : Bool := balancedFrom 0 text

/-- What one pair of parentheses around the whole text holds, if it holds a balanced text. -/
def enclosed? : List Char → Option (List Char)
  | '(' :: rest =>
    if rest.getLast? = some ')' && balanced rest.dropLast then some rest.dropLast else none
  | _ => none

theorem length_enclosed?_lt {text inside : List Char} (h : enclosed? text = some inside) :
    inside.length < text.length := by
  unfold enclosed? at h
  split at h
  · split at h
    · cases h; simp only [List.length_dropLast, List.length_cons]; omega
    · cases h
  · cases h

theorem length_trim_le (text : List Char) : (trim text).length ≤ text.length := by
  have h₁ := (List.dropWhile_sublist isBlank (l := text)).length_le
  have h₂ := (List.dropWhile_sublist isBlank (l := (text.dropWhile isBlank).reverse)).length_le
  simp only [trim, trimEnd, List.length_reverse] at *
  omega

/-- Removes pairs of parentheses around the whole text, and the blanks inside each of them. -/
def stripParens (text : List Char) : List Char :=
  match _ : enclosed? text with
  | some inside => stripParens (trim inside)
  | none => text
  termination_by text.length
  decreasing_by
    rename_i h
    have := length_enclosed?_lt h
    have := length_trim_le inside
    omega

/-! ## Tokens -/

/-- A part of a literal. -/
inductive Token where
  /-- A word of letters, digits and underscores that starts with no digit. -/
  | word (text : List Char)
  /-- A number and the suffix letters directly behind it. -/
  | number (digits suffix : List Char)
  /-- Any other character. -/
  | symbol (c : Char)
  deriving DecidableEq, Repr

/-- The token as it was written. -/
def Token.source : Token → List Char
  | .word text => text
  | .number digits suffix => digits ++ suffix
  | .symbol c => [c]

/-- The token as it is written in the result: no suffix, and `!` for a complement. -/
def Token.emitted : Token → List Char
  | .word text => text
  | .number digits _ => digits
  | .symbol c => if c = '~' then ['!'] else [c]

/-- Starts a word. -/
def isWordStart (c : Char) : Bool := c.isAlpha || c == '_'

/-- Goes on a word. -/
def isWordPart (c : Char) : Bool := c.isAlphanum || c == '_'

/-- A hexadecimal digit of either case. -/
def isHexDigit (c : Char) : Bool :=
  c.isDigit || ('a' ≤ c && c ≤ 'f') || ('A' ≤ c && c ≤ 'F')

/-- A letter of a number's suffix. -/
def isSuffixLetter (c : Char) : Bool := ['u', 'U', 'l', 'L', 'f', 'F'].contains c

/-- Starts a number: a digit, or a point directly before one. -/
def startsNumber : List Char → Bool
  | [] => false
  | c :: rest => c.isDigit || (c == '.' && rest.head?.any Char.isDigit)

/-- The marks of an exponent that starts a text, without its digits: `e` or `E` and a sign.  There is
an exponent only where a digit follows. -/
def exponentMarks : List Char → List Char
  | [] => []
  | e :: rest =>
    if e == 'e' || e == 'E' then
      match rest with
      | sign :: digit :: _ =>
        if sign.isDigit then [e]
        else if (sign == '+' || sign == '-') && digit.isDigit then [e, sign]
        else []
      | [digit] => if digit.isDigit then [e] else []
      | [] => []
    else []

/-- The exponent that starts a text. -/
def exponent (text : List Char) : List Char :=
  match exponentMarks text with
  | [] => []
  | marks => marks ++ (text.drop marks.length).takeWhile Char.isDigit

/-- The digits and points, and the exponent behind them. -/
def decimal (text : List Char) : List Char :=
  let mantissa := text.takeWhile fun c => c.isDigit || c == '.'
  mantissa ++ exponent (text.drop mantissa.length)

/-- The number that starts a text, without its suffix. -/
def numeral : List Char → List Char
  | '0' :: x :: rest =>
    if x == 'x' || x == 'X' then '0' :: x :: rest.takeWhile isHexDigit
    else decimal ('0' :: x :: rest)
  | text => decimal text

/-- The first token of a non-empty text. -/
def nextToken (c : Char) (rest : List Char) : Token :=
  if isWordStart c then .word (c :: rest.takeWhile isWordPart)
  else if startsNumber (c :: rest) then
    let digits := numeral (c :: rest)
    .number digits (((c :: rest).drop digits.length).takeWhile isSuffixLetter)
  else .symbol c

/-! ### Every token is a non-empty beginning of its text -/

theorem exponentMarks_isPrefix (text : List Char) : exponentMarks text <+: text := by
  unfold exponentMarks
  split
  · exact List.nil_prefix
  · split
    · split
      · split
        · exact ⟨_, rfl⟩
        · split
          · exact ⟨_, rfl⟩
          · exact List.nil_prefix
      · split
        · exact ⟨_, rfl⟩
        · exact List.nil_prefix
      · exact List.nil_prefix
    · exact List.nil_prefix

/-- A beginning of a text, and a beginning of what is behind it, make a beginning of the text. -/
theorem append_prefix_of_drop (start : List Char) {more text : List Char} (h : start <+: text)
    (hmore : more <+: text.drop start.length) : start ++ more <+: text := by
  obtain ⟨tail, rfl⟩ := h
  rw [List.drop_left] at hmore
  exact (List.prefix_append_right_inj start).2 hmore

theorem exponent_isPrefix (text : List Char) : exponent text <+: text := by
  unfold exponent
  split
  · exact List.nil_prefix
  · exact append_prefix_of_drop _ (exponentMarks_isPrefix text) (List.takeWhile_prefix _)

theorem decimal_isPrefix (text : List Char) : decimal text <+: text :=
  append_prefix_of_drop _ (List.takeWhile_prefix _) (exponent_isPrefix _)

theorem numeral_isPrefix (text : List Char) : numeral text <+: text := by
  unfold numeral
  split
  · split
    · exact append_prefix_of_drop [_, _] ⟨_, rfl⟩ (List.takeWhile_prefix _)
    · exact decimal_isPrefix _
  · exact decimal_isPrefix _

theorem nextToken_source_isPrefix (c : Char) (rest : List Char) :
    (nextToken c rest).source <+: c :: rest := by
  unfold nextToken
  split
  · exact append_prefix_of_drop [c] ⟨_, rfl⟩ (List.takeWhile_prefix _)
  · split
    · exact append_prefix_of_drop _ (numeral_isPrefix _) (List.takeWhile_prefix _)
    · exact ⟨_, rfl⟩

theorem decimal_ne_nil {c : Char} {rest : List Char} (h : startsNumber (c :: rest) = true) :
    decimal (c :: rest) ≠ [] := by
  have hc : (c.isDigit || c == '.') = true := by
    simp only [startsNumber, Bool.or_eq_true, Bool.and_eq_true] at h ⊢
    exact h.imp id (·.1)
  simp [decimal, hc]

theorem numeral_ne_nil {c : Char} {rest : List Char} (h : startsNumber (c :: rest) = true) :
    numeral (c :: rest) ≠ [] := by
  unfold numeral
  split
  · split
    · simp
    · next heq _ => exact decimal_ne_nil (heq ▸ h)
  · exact decimal_ne_nil h

/-- Every token takes at least one character. -/
theorem nextToken_source_pos (c : Char) (rest : List Char) :
    0 < (nextToken c rest).source.length := by
  unfold nextToken
  split
  · simp [Token.source]
  · split
    · next h =>
      have := List.length_pos_iff.2 (numeral_ne_nil h)
      simp only [Token.source, List.length_append]
      omega
    · simp [Token.source]

/-! ### Cutting a text into tokens -/

/-- The tokens of a text. -/
def tokens : List Char → List Token
  | [] => []
  | c :: rest =>
    let first := nextToken c rest
    first :: tokens ((c :: rest).drop first.source.length)
  termination_by text => text.length
  decreasing_by
    have := nextToken_source_pos c rest
    simp only [List.length_drop, List.length_cons]
    omega

/-- Cutting loses nothing: the tokens as written make up the text. -/
theorem sourceOf_tokens (text : List Char) : (tokens text).flatMap Token.source = text := by
  fun_induction tokens text with
  | case1 => rfl
  | case2 c rest first ih =>
    rw [List.flatMap_cons, ih]
    exact List.prefix_iff_eq_append.1 (nextToken_source_isPrefix c rest)

/-! ## Normal form -/

/-- Whether a text is digits with an optional minus in front, at least one digit. -/
def isIntegral (text : List Char) : Bool :=
  let digits := match text with
    | '-' :: rest => rest
    | _ => text
  !digits.isEmpty && digits.all Char.isDigit

/-- A literal that is kept as it is written: one of a text constant, or one that starts with a quote. -/
def isVerbatim (type : ScalarType) (text : List Char) : Bool :=
  type = .str || text.head? = some '"'

theorem isVerbatim_eq_false_iff {type : ScalarType} {text : List Char} :
    isVerbatim type text = false ↔ type ≠ .str ∧ text.head? ≠ some '"' := by
  rw [isVerbatim, Bool.or_eq_false_iff, decide_eq_false_iff_not, decide_eq_false_iff_not]

/-- A literal without blanks around it and without enclosing parentheses. -/
def bare (literal : String) : List Char := stripParens (trim literal.toList)

/-- The tokens as they are written anew. -/
def emitted (text : List Char) : List Char := (tokens text).flatMap Token.emitted

/-- The literal of the emitted code for a literal of a document and the type of its constant. -/
def normalize (type : ScalarType) (literal : String) : String :=
  let text := bare literal
  if isVerbatim type text then String.ofList text
  else
    let result := emitted text
    String.ofList (if type.isFloat && isIntegral result then result ++ ['.', '0'] else result)

end ApiBindings.Literal
