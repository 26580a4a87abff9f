import ApiBindings.Literal
import ApiBindings.Proofs.Words

/-!
# Enclosing parentheses

A text with matching parentheses leaves the count of open ones as it was (`balancedFrom_append`), so it may be
put in parentheses any number of times and stays balanced.  Reading a literal takes all these pairs off again,
with the blanks inside and around them (`bare_enclose`).

What it is for parentheses to match is also said without a count that runs along: no beginning of the text closes
more than it opens, and all of it as many (`balanced_iff_matched`).
-/

namespace ApiBindings.Literal

set_option autoImplicit false

open ApiBindings.Text

variable {text : List Char}

/-! ## Matching parentheses -/

theorem balancedFrom_open (depth : Nat) (rest : List Char) :
    balancedFrom depth ('(' :: rest) = balancedFrom (depth + 1) rest := by
  simp [balancedFrom]

theorem balancedFrom_close (depth : Nat) (rest : List Char) :
    balancedFrom (depth + 1) (')' :: rest) = balancedFrom depth rest := by
  simp [balancedFrom]

theorem balancedFrom_other {c : Char} (opening : c ≠ '(') (closing : c ≠ ')') (depth : Nat)
    (rest : List Char) : balancedFrom depth (c :: rest) = balancedFrom depth rest := by
  simp [balancedFrom, opening, closing]

/-- **Behind a text whose parentheses match, the count goes on where it was.** -/
theorem balancedFrom_append {depth : Nat} (within : balancedFrom depth text = true) (more : Nat)
    (rest : List Char) : balancedFrom (depth + more) (text ++ rest) = balancedFrom more rest := by
  induction text generalizing depth with
  | nil =>
      obtain rfl : depth = 0 := by simpa [balancedFrom] using within
      rw [Nat.zero_add, List.nil_append]
  | cons c text ih =>
      rw [List.cons_append]
      by_cases opening : c = '('
      · rw [opening, balancedFrom_open] at within ⊢
        rw [Nat.add_right_comm, ih within]
      · by_cases closing : c = ')'
        · subst closing
          cases depth with
          | zero => cases within
          | succ depth =>
              rw [balancedFrom_close] at within
              rw [Nat.add_right_comm, balancedFrom_close, ih within]
        · rw [balancedFrom_other opening closing] at within ⊢
          exact ih within

theorem balancedFrom_of_none (depth : Nat) (none : ∀ c ∈ text, c ≠ '(' ∧ c ≠ ')') (rest : List Char) :
    balancedFrom depth (text ++ rest) = balancedFrom depth rest := by
  induction text with
  | nil => rfl
  | cons c text ih =>
      obtain ⟨⟨opening, closing⟩, later⟩ := List.forall_mem_cons.mp none
      rw [List.cons_append, balancedFrom_other opening closing, ih later]

theorem balanced_of_none (none : ∀ c ∈ text, c ≠ '(' ∧ c ≠ ')') : balanced text = true := by
  rw [balanced, ← List.append_nil text, balancedFrom_of_none 0 none]
  rfl

/-- Blanks are no parentheses. -/
theorem balancedFrom_blanks (blanks : Blanks) (depth : Nat) (rest : List Char) :
    balancedFrom depth (blanks.chars ++ rest) = balancedFrom depth rest := by
  refine balancedFrom_of_none depth (fun c mem => ?_) rest
  have blank := blanks.isBlank c mem
  constructor <;> rintro rfl <;> exact absurd blank (by decide)

/-! ## Counting parentheses -/

/-- A text with matching parentheses: no beginning of it closes more than it opens, and all of it closes as many as
it opens. -/
structure Matched (text : List Char) : Prop where
  opened : ∀ front, front <+: text → front.count ')' ≤ front.count '('
  closed : text.count ')' = text.count '('

theorem forall_prefix_cons_iff {c : Char} {p : List Char → Prop} :
    (∀ front, front <+: c :: text → p front) ↔ p [] ∧ ∀ front, front <+: text → p (c :: front) := by
  simp only [List.prefix_cons_iff]
  constructor
  · intro all
    exact ⟨all [] (.inl rfl), fun front start => all _ (.inr ⟨front, rfl, start⟩)⟩
  · rintro ⟨empty, later⟩ _ (rfl | ⟨front, rfl, start⟩)
    · exact empty
    · exact later front start

/-- With some parentheses open before a text, the count never runs out and ends at none. -/
theorem balancedFrom_iff_count (depth : Nat) : balancedFrom depth text = true ↔
    (∀ front, front <+: text → front.count ')' ≤ depth + front.count '(') ∧
      text.count ')' = depth + text.count '(' := by
  induction text generalizing depth with
  | nil =>
      simp only [balancedFrom, List.prefix_nil, forall_eq, List.count_nil, Nat.zero_le, true_and, Nat.add_zero,
        beq_iff_eq]
      exact eq_comm
  | cons c text ih =>
      rw [forall_prefix_cons_iff]
      by_cases opening : c = '('
      · subst opening
        rw [balancedFrom_open, ih]
        simp only [List.count_cons_self, List.count_cons_of_ne (show '(' ≠ ')' by decide), List.count_nil,
          Nat.zero_le, true_and, Nat.add_assoc, Nat.add_comm 1]
      · by_cases closing : c = ')'
        · subst closing
          simp only [List.count_cons_self, List.count_cons_of_ne (show ')' ≠ '(' by decide), List.count_nil,
            Nat.zero_le, true_and]
          cases depth with
          | zero =>
              refine iff_of_false Bool.noConfusion ?_
              rintro ⟨later, -⟩
              exact Nat.not_succ_le_zero _ (later [] List.nil_prefix)
          | succ depth =>
              rw [balancedFrom_close, ih]
              simp only [Nat.add_right_comm depth 1, Nat.add_le_add_iff_right, Nat.add_right_cancel_iff]
        · rw [balancedFrom_other opening closing, ih]
          simp only [List.count_cons_of_ne opening, List.count_cons_of_ne closing, List.count_nil,
            Nat.zero_le, true_and]

/-- **The count accepts exactly the texts with matching parentheses.** -/
theorem balanced_iff_matched : balanced text = true ↔ Matched text := by
  rw [balanced, balancedFrom_iff_count]
  simp only [Nat.zero_add]
  exact ⟨fun ⟨opened, closed⟩ => ⟨opened, closed⟩, fun matched => ⟨matched.opened, matched.closed⟩⟩

/-! ## Pairs around a text -/

/-- A text in parentheses, with the blanks inside each pair, the outermost pair first. -/
def enclose : List (Blanks × Blanks) → List Char → List Char
  | [], text => text
  | (front, back) :: pairs, text => '(' :: ((front.chars ++ (enclose pairs text ++ back.chars)) ++ [')'])

/-- What a pair holds is balanced with its blanks, and so is the pair. -/
theorem balanced_pair (matched : balanced text = true) (front back : Blanks) :
    balanced (front.chars ++ (text ++ back.chars)) = true ∧
      balanced ('(' :: ((front.chars ++ (text ++ back.chars)) ++ [')'])) = true := by
  have inside (depth : Nat) (rest : List Char) :
      balancedFrom depth (front.chars ++ (text ++ back.chars) ++ rest) = balancedFrom depth rest := by
    have kept := balancedFrom_append matched depth (back.chars ++ rest)
    rw [Nat.zero_add] at kept
    rw [List.append_assoc, balancedFrom_blanks, List.append_assoc, kept, balancedFrom_blanks]
  constructor
  · have whole := inside 0 []
    rwa [List.append_nil] at whole
  · rw [balanced, balancedFrom_open, inside]
    rfl

theorem balanced_enclose (matched : balanced text = true) (pairs : List (Blanks × Blanks)) :
    balanced (enclose pairs text) = true := by
  induction pairs with
  | nil => exact matched
  | cons pair pairs ih => exact (balanced_pair ih pair.1 pair.2).2

/-- Trimming takes nothing off a text in parentheses. -/
theorem trim_enclose_cons (pair : Blanks × Blanks) (pairs : List (Blanks × Blanks)) (text : List Char) :
    trim (enclose (pair :: pairs) text) = enclose (pair :: pairs) text := by
  have framed : Framed (enclose (pair :: pairs) text) := ⟨⟨_, _, rfl, by decide⟩, ⟨_ :: _, _, rfl, by decide⟩⟩
  simpa using framed.trim (List.forall_mem_nil _) (List.forall_mem_nil _)

theorem stripParens_of_enclosed? {inside : List Char} (found : enclosed? text = some inside) :
    stripParens text = stripParens (trim inside) := by
  rw [stripParens]
  split
  · next other => rw [Option.some.inj (found.symm.trans other)]
  · next none => cases found.symm.trans none

theorem stripParens_of_none (none : enclosed? text = none) : stripParens text = text := by
  rw [stripParens]
  split
  · next found => cases none.symm.trans found
  · rfl

theorem enclosed?_of_ne {c : Char} (other : c ≠ '(') (rest : List Char) : enclosed? (c :: rest) = none := by
  unfold enclosed?
  split
  · next same => exact absurd (List.cons.inj same).1 other
  · rfl

theorem enclosed?_parens (matched : balanced text = true) :
    enclosed? ('(' :: (text ++ [')'])) = some text := by
  simp [enclosed?, matched]

/-- What reading takes off is one pair around a balanced text. -/
theorem enclosed?_eq_some_iff {inside : List Char} :
    enclosed? text = some inside ↔ text = '(' :: (inside ++ [')']) ∧ balanced inside = true := by
  constructor
  · intro found
    unfold enclosed? at found
    split at found
    · split at found
      · next ends =>
          rw [Bool.and_eq_true, decide_eq_true_eq] at ends
          cases found
          exact ⟨by rw [List.dropLast_append_getLast? _ ends.1], ends.2⟩
      · cases found
    · cases found
  · rintro ⟨rfl, matched⟩
    exact enclosed?_parens matched

/-- No pair of parentheses encloses the text: no text with matching parentheses stands between a first `(` and a
last `)`. -/
def Unpaired (text : List Char) : Prop := ∀ inside, Matched inside → text ≠ '(' :: (inside ++ [')'])

theorem enclosed?_eq_none_iff : enclosed? text = none ↔ Unpaired text := by
  simp only [Option.eq_none_iff_forall_ne_some, Ne, enclosed?_eq_some_iff, balanced_iff_matched, not_and']
  rfl

/-- Reading takes off the pairs around a text, with the blanks in them. -/
theorem stripParens_trim_enclose (matched : balanced text = true) (pairs : List (Blanks × Blanks)) :
    stripParens (trim (enclose pairs text)) = stripParens (trim text) := by
  induction pairs with
  | nil => rfl
  | cons pair pairs ih =>
      obtain ⟨front, back⟩ := pair
      have held := (balanced_pair (balanced_enclose matched pairs) front back).1
      rw [trim_enclose_cons, enclose, stripParens_of_enclosed? (enclosed?_parens held), trim_blanks_around, ih]

/-- **Parentheses around a literal make no difference**, however many pairs there are and whatever blanks stand
around each of them. -/
theorem bare_enclose (matched : balanced text = true) (front back : Blanks) (pairs : List (Blanks × Blanks)) :
    bare (String.ofList (front.chars ++ (enclose pairs text ++ back.chars))) = bare (String.ofList text) := by
  rw [bare, bare, String.toList_ofList, String.toList_ofList, trim_blanks_around,
    stripParens_trim_enclose matched]

/-- What is left of a text in parentheses is the text, if it has no parentheses and no blanks itself. -/
theorem bare_enclose_solid (solid : Solid text) (noParens : ∀ c ∈ text, c ≠ '(' ∧ c ≠ ')')
    (front back : Blanks) (pairs : List (Blanks × Blanks)) :
    bare (String.ofList (front.chars ++ (enclose pairs text ++ back.chars))) = text := by
  have unpaired : enclosed? text = none := by
    obtain ⟨c, rest, rfl⟩ := List.exists_cons_of_ne_nil solid.ne_nil
    exact enclosed?_of_ne (noParens c List.mem_cons_self).1 rest
  rw [bare_enclose (balanced_of_none noParens), bare, String.toList_ofList, trim_of_no_blank solid.noBlank,
    stripParens_of_none unpaired]

end ApiBindings.Literal
