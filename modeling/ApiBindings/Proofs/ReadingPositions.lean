import ApiBindings.Literal
import ApiBindings.Proofs.Characters

/-!
# Reading by positions

Cutting a literal into tokens can also be done with a position in the text.  A round looks at the character at the
position, finds the end of what starts there, writes the part of the text in between, and goes on at the end.  Such a
round can go wrong where cutting cannot: it may look for a character outside of the text, take a part that is no part
of it, or stay where it is.

It does none of these (`round?_eq`): at every position in the text, a round writes the token that starts there and
goes on directly behind it.  So the rounds come to the end of every text, and what they have written then is what
the tokens are written as (`runs_iff`).
-/

namespace ApiBindings.Literal

set_option autoImplicit false

variable {text rest : List Char} {start : Nat}

/-! ## Ends -/

/-- The end of the characters of a class that stand from a position on. -/
def endOf (p : Char → Bool) (text : List Char) (start : Nat) : Nat :=
  if _ : start < text.length then
    if p text[start] then endOf p text (start + 1) else start
  else start
  termination_by text.length - start

/-- The end of the exponent at a position, which is the position itself if no exponent is there. -/
def exponentEnd (text : List Char) (start : Nat) : Nat :=
  let digits := if text[start + 1]?.any fun c => c == '+' || c == '-' then start + 2 else start + 1
  if (text[start]?.any fun c => c == 'e' || c == 'E') && text[digits]?.any Char.isDigit then
    endOf Char.isDigit text digits
  else start

/-- The end of the number at a position, without its suffix. -/
def numberEnd? (text : List Char) (start : Nat) : Option Nat :=
  text[start]?.map fun first =>
    if first == '0' && text[start + 1]?.any fun c => c == 'x' || c == 'X' then endOf isHexDigit text (start + 2)
    else exponentEnd text (endOf (fun c => c.isDigit || c == '.') text start)

/-- The part of a text between two positions. -/
def slice? (text : List Char) (start stop : Nat) : Option (List Char) :=
  if start ≤ stop ∧ stop ≤ text.length then some ((text.drop start).take (stop - start)) else none

/-- What a round writes that starts at a position, and where the next one starts. -/
def round? (text : List Char) (start : Nat) : Option (List Char × Nat) := do
  let c ← text[start]?
  if isWordStart c then
    let stop := endOf isWordPart text start
    let word ← slice? text start stop
    some (word, stop)
  else if c.isDigit || (c == '.' && text[start + 1]?.any Char.isDigit) then
    let stop ← numberEnd? text start
    let digits ← slice? text start stop
    some (digits, endOf isSuffixLetter text stop)
  else some (if c = '~' then ['!'] else [c], start + 1)

/-- The rounds from a position on come to the end of the text, having written a text. -/
inductive Runs (text : List Char) : (start : Nat) → (written : List Char) → Prop where
  | stop {start : Nat} (past : text.length ≤ start) : Runs text start []
  | round {start next : Nat} {written more : List Char} (inside : start < text.length)
      (step : round? text start = some (written, next)) (onward : Runs text next more) :
      Runs text start (written ++ more)

/-! ## Ends and what is taken -/

theorem endOf_eq (p : Char → Bool) (text : List Char) (start : Nat) :
    endOf p text start = start + ((text.drop start).takeWhile p).length := by
  fun_induction endOf p text start with
  | case1 start inside holds ih =>
      rw [ih, List.drop_eq_getElem_cons inside, List.takeWhile_cons_of_pos holds, List.length_cons]
      omega
  | case2 start inside fails =>
      rw [List.drop_eq_getElem_cons inside, List.takeWhile_cons_of_neg (by simpa using fails)]
      rfl
  | case3 start outside =>
      rw [List.drop_eq_nil_of_le (Nat.le_of_not_lt outside)]
      rfl

theorem getElem?_add (behind : text.drop start = rest) (offset : Nat) : text[start + offset]? = rest[offset]? := by
  rw [← behind, List.getElem?_drop]

theorem drop_add (behind : text.drop start = rest) (count : Nat) : text.drop (start + count) = rest.drop count := by
  rw [← behind, List.drop_drop]

theorem not_isDigit_of_sign {c : Char} (sign : (c == '+' || c == '-') = true) : c.isDigit = false := by
  rcases (by simpa using sign : c = '+' ∨ c = '-') with rfl | rfl <;> rfl

/-- How many characters stand in front of the digits of an exponent. -/
def markCount (text : List Char) : Nat := if text[1]?.any fun c => c == '+' || c == '-' then 2 else 1

/-- An exponent is found by looking at three characters. -/
theorem exponent_eq (text : List Char) : exponent text =
    if (text[0]?.any fun c => c == 'e' || c == 'E') && text[markCount text]?.any Char.isDigit then
      text.take (markCount text) ++ (text.drop (markCount text)).takeWhile Char.isDigit
    else [] := by
  match text with
  | [] => rfl
  | [e] => simp [exponent, exponentMarks, markCount]
  | [e, digit] =>
      by_cases signed : (digit == '+' || digit == '-') = true
      · simp [exponent, exponentMarks, markCount, not_isDigit_of_sign signed, signed]
      · by_cases found : ((e == 'e' || e == 'E') && digit.isDigit) = true <;>
          simp_all [exponent, exponentMarks, markCount]
  | e :: sign :: digit :: rest =>
      by_cases signed : (sign == '+' || sign == '-') = true
      · by_cases found : ((e == 'e' || e == 'E') && digit.isDigit) = true <;>
          simp_all [exponent, exponentMarks, markCount, not_isDigit_of_sign signed]
      · by_cases found : ((e == 'e' || e == 'E') && sign.isDigit) = true <;>
          simp_all [exponent, exponentMarks, markCount]

theorem exponentEnd_eq (text : List Char) (start : Nat) :
    exponentEnd text start = start + (exponent (text.drop start)).length := by
  generalize behind : text.drop start = rest
  -- The same three characters are looked at, by their positions and by their places behind the position.
  have looked : exponentEnd text start =
      if (rest[0]?.any fun c => c == 'e' || c == 'E') && rest[markCount rest]?.any Char.isDigit then
        start + markCount rest + ((rest.drop (markCount rest)).takeWhile Char.isDigit).length
      else start := by
    simp only [exponentEnd, markCount, ← getElem?_add behind, ← drop_add behind, ← endOf_eq, Nat.add_zero,
      apply_ite (start + ·)]
  rw [looked, exponent_eq]
  split
  · next found =>
      have inside : markCount rest < rest.length := by
        obtain ⟨-, digit⟩ := Bool.and_eq_true_iff.mp found
        obtain ⟨c, at_, -⟩ := (Option.any_eq_true _ _).mp digit
        exact (List.getElem?_eq_some_iff.mp at_).1
      rw [List.length_append, List.length_take_of_le inside.le, Nat.add_assoc]
  · rfl

/-- A hexadecimal number is found by looking at two characters. -/
theorem numeral_cons_eq (c : Char) (rest : List Char) : numeral (c :: rest) =
    if c == '0' && rest[0]?.any fun x => x == 'x' || x == 'X' then
      c :: rest.take 1 ++ (rest.drop 1).takeWhile isHexDigit
    else decimal (c :: rest) := by
  by_cases zero : c = '0'
  · subst zero
    cases rest with
    | nil => rfl
    | cons x rest => simp [numeral]
  · have noHex : ∀ x more, c :: rest ≠ '0' :: x :: more := fun _ _ same => zero (List.cons.inj same).1
    rw [numeral.eq_2 (c :: rest) noHex]
    simp [zero]

theorem numberEnd?_eq {c : Char} (behind : text.drop start = c :: rest) :
    numberEnd? text start = some (start + (numeral (c :: rest)).length) := by
  have decimalEnd : exponentEnd text (endOf (fun c => c.isDigit || c == '.') text start) =
      start + (decimal (c :: rest)).length := by
    rw [exponentEnd_eq, endOf_eq, decimal, List.length_append, drop_add rfl, behind, Nat.add_assoc]
  have hexEnd : endOf isHexDigit text (start + 2) = start + 2 + ((rest.drop 1).takeWhile isHexDigit).length := by
    rw [endOf_eq, drop_add behind, List.drop_succ_cons]
  have first : text[start]? = some c := getElem?_add behind 0
  have second : text[start + 1]? = rest[0]? := getElem?_add behind 1
  rw [numberEnd?, first, second, Option.map_some, decimalEnd, hexEnd, numeral_cons_eq]
  split
  · next hex =>
      have inside : 1 ≤ rest.length := by
        obtain ⟨-, mark⟩ := Bool.and_eq_true_iff.mp hex
        obtain ⟨x, at_, -⟩ := (Option.any_eq_true _ _).mp mark
        exact (List.getElem?_eq_some_iff.mp at_).1
      rw [List.length_append, List.length_cons, List.length_take_of_le inside, Nat.add_assoc]
  · rfl

theorem slice?_eq {part : List Char} (inside : start ≤ text.length) (begins : part <+: text.drop start) :
    slice? text start (start + part.length) = some part := by
  have fits := begins.length_le
  rw [List.length_drop] at fits
  have taken := List.prefix_iff_eq_take.mp begins
  rw [slice?, if_pos (by omega), Nat.add_sub_cancel_left, ← taken]

theorem isWordPart_of_isWordStart {c : Char} (starts : isWordStart c = true) : isWordPart c = true := by
  rw [isWordStart, Bool.or_eq_true] at starts
  rw [isWordPart, Char.isAlphanum, Bool.or_eq_true, Bool.or_eq_true]
  exact starts.imp_left .inl

theorem length_lt_of_drop {c : Char} (behind : text.drop start = c :: rest) : start < text.length := by
  have longer := congrArg List.length behind
  rw [List.length_drop, List.length_cons] at longer
  omega

/-- **A round reads the token at its position**: it writes the token anew, and the next round starts behind it. -/
theorem round?_eq {c : Char} (behind : text.drop start = c :: rest) :
    round? text start = some ((nextToken c rest).emitted, start + (nextToken c rest).source.length) := by
  have inside : start ≤ text.length := (length_lt_of_drop behind).le
  have first : text[start]? = some c := getElem?_add behind 0
  have second : text[start + 1]? = rest.head? := by
    rw [List.head?_eq_getElem?]
    exact getElem?_add behind 1
  rw [round?, first, second, nextToken]
  by_cases starts : isWordStart c = true
  · have wordEnd : endOf isWordPart text start = start + (c :: rest.takeWhile isWordPart).length := by
      rw [endOf_eq, behind, List.takeWhile_cons_of_pos (isWordPart_of_isWordStart starts)]
    have begins : c :: rest.takeWhile isWordPart <+: text.drop start := by
      rw [behind, List.prefix_cons_inj]
      exact List.takeWhile_prefix _
    simp only [Option.bind_eq_bind, Option.bind_some, starts, if_true, wordEnd, slice?_eq inside begins]
    rfl
  · by_cases numeric : startsNumber (c :: rest) = true
    · have begins : numeral (c :: rest) <+: text.drop start := behind ▸ numeral_isPrefix _
      have suffixEnd : endOf isSuffixLetter text (start + (numeral (c :: rest)).length) =
          start + (numeral (c :: rest)).length +
            (((c :: rest).drop (numeral (c :: rest)).length).takeWhile isSuffixLetter).length := by
        rw [endOf_eq, drop_add behind]
      have digit : (c.isDigit || (c == '.' && rest.head?.any Char.isDigit)) = true := numeric
      simp only [Option.bind_eq_bind, Option.bind_some, starts, numeric, digit, if_true, if_false, Bool.false_eq_true,
        numberEnd?_eq behind, slice?_eq inside begins, suffixEnd, Token.emitted, Token.source, List.length_append,
        Nat.add_assoc]
    · have noDigit : ¬ (c.isDigit || (c == '.' && rest.head?.any Char.isDigit)) = true := numeric
      simp only [Option.bind_eq_bind, Option.bind_some, starts, numeric, noDigit, if_false, Bool.false_eq_true]
      rfl

/-! ## All rounds -/

/-- At every position in the text a round goes on to a later position, and not behind the end. -/
theorem exists_round (inside : start < text.length) : ∃ written next, round? text start = some (written, next) ∧
    start < next ∧ next ≤ text.length ∧ emitted (text.drop start) = written ++ emitted (text.drop next) := by
  obtain ⟨c, rest, behind⟩ := List.exists_cons_of_ne_nil (List.drop_eq_nil_iff.not.mpr (Nat.not_le_of_lt inside))
  have forward := nextToken_source_pos c rest
  have fits := (nextToken_source_isPrefix c rest).length_le
  rw [← behind, List.length_drop] at fits
  refine ⟨_, _, round?_eq behind, by omega, by omega, ?_⟩
  rw [behind, emitted, tokens, List.flatMap_cons, emitted, drop_add behind]

/-- **The rounds come to the end of the text, having written its tokens anew.** -/
theorem runs_iff {written : List Char} : Runs text start written ↔ written = emitted (text.drop start) := by
  constructor
  · intro runs
    induction runs with
    | stop past => rw [List.drop_eq_nil_of_le past, emitted, tokens]; rfl
    | round inside step _ ih =>
        obtain ⟨_, _, same, -, -, whole⟩ := exists_round inside
        cases step.symm.trans same
        rw [whole, ih]
  · rintro rfl
    induction left : text.length - start using Nat.strong_induction_on generalizing start with
    | _ left ih =>
        by_cases inside : start < text.length
        · obtain ⟨written, next, step, forward, fits, whole⟩ := exists_round inside
          rw [whole]
          exact .round inside step (ih _ (by omega) rfl)
        · have past := Nat.le_of_not_lt inside
          rw [List.drop_eq_nil_of_le past, emitted, tokens]
          exact .stop past

end ApiBindings.Literal
