import ApiBindings.Proofs.Parentheses

/-!
# The pairs that enclose a text

Reading a literal takes parentheses off a text as long as the first and the last character are a pair: what stands
between them must match on its own, so `(a)+(b)` stays as it is.  `Peels` says so without the count that runs along.
A pair comes off where a text with matching parentheses stands between the two, and with it the blanks around that
text, until no pair is left.

Every text has one way to be peeled (`Peels.unique`), and it is the way of `stripParens`.  Nothing else is lost: the
text is what is left, put in as many pairs with their blanks (`exists_peels`), and what is left matches exactly if the
text does (`Peels.matched_iff`).  So a literal with matching parentheses may be put in more of them, and blanks may
stand around it and inside each pair (`parens_peeled`).
-/

namespace ApiBindings.Literal

set_option autoImplicit false

open ApiBindings.Text

variable {text left : List Char} {count : Nat}

/-! ## Peeling -/

/-- Taking off the pairs that enclose a text, one after the other and with the blanks around what they hold, leaves a
text that no pair encloses. -/
inductive Peels : (count : Nat) → (text left : List Char) → Prop where
  | stop {text : List Char} (unpaired : Unpaired text) : Peels 0 text text
  | pair {count : Nat} {inside left : List Char} (matched : Matched inside)
      (onward : Peels count (trim inside) left) : Peels (count + 1) ('(' :: (inside ++ [')'])) left

/-- Every text can be peeled, and what comes off are pairs that enclose what is left. -/
theorem exists_peels (text : List Char) : ∃ pairs : List (Blanks × Blanks),
    Peels pairs.length text (stripParens text) ∧ enclose pairs (stripParens text) = text := by
  fun_induction stripParens text with
  | case1 text inside found ih =>
      obtain ⟨rfl, matched⟩ := enclosed?_eq_some_iff.mp found
      obtain ⟨pairs, peels, whole⟩ := ih
      obtain ⟨front, back, frontBlank, backBlank, same⟩ := exists_blanks_around inside
      refine ⟨(⟨front, List.all_eq_true.mpr frontBlank⟩, ⟨back, List.all_eq_true.mpr backBlank⟩) :: pairs,
        .pair (balanced_iff_matched.mp matched) peels, ?_⟩
      rw [enclose, whole, ← same]
  | case2 text none => exact ⟨[], .stop (enclosed?_eq_none_iff.mp none), rfl⟩

/-- A text can be peeled in one way only. -/
theorem Peels.unique {other : Nat} {rest : List Char} (peels : Peels count text left)
    (again : Peels other text rest) : other = count ∧ rest = left := by
  induction peels generalizing other with
  | stop unpaired =>
      cases again with
      | stop _ => exact ⟨rfl, rfl⟩
      | pair matched _ => exact absurd rfl (unpaired _ matched)
  | @pair count inside left matched _ ih =>
      generalize whole : '(' :: (inside ++ [')']) = text at again
      cases again with
      | stop unpaired => exact absurd whole.symm (unpaired _ matched)
      | @pair count inner left _ onward =>
          obtain rfl : inside = inner := by simpa using whole
          obtain ⟨rfl, same⟩ := ih onward
          exact ⟨rfl, same⟩

/-! ## Blanks around a text -/

theorem count_of_blank {blanks : List Char} (blank : Blank blanks) {c : Char} (solid : isBlank c = false) :
    blanks.count c = 0 := by
  refine List.count_eq_zero.mpr fun mem => ?_
  rw [blank c mem] at solid
  cases solid

/-- The parentheses of a text match without the blanks around it. -/
theorem Matched.of_blanks_around {front back : List Char} (frontBlank : Blank front) (backBlank : Blank back)
    (matched : Matched (front ++ (text ++ back))) : Matched text := by
  have noOpening {blanks : List Char} (blank : Blank blanks) : blanks.count '(' = 0 :=
    count_of_blank blank (by decide)
  have noClosing {blanks : List Char} (blank : Blank blanks) : blanks.count ')' = 0 :=
    count_of_blank blank (by decide)
  constructor
  · intro start begins
    have longer : front ++ start <+: front ++ (text ++ back) :=
      (List.prefix_append_right_inj front).mpr (begins.trans (List.prefix_append text back))
    have opened := matched.opened _ longer
    rwa [List.count_append, List.count_append, noOpening frontBlank, noClosing frontBlank, Nat.zero_add,
      Nat.zero_add] at opened
  · have closed := matched.closed
    simpa only [List.count_append, noOpening frontBlank, noClosing frontBlank, noOpening backBlank,
      noClosing backBlank, Nat.zero_add, Nat.add_zero] using closed

/-- What is left of a text that was peeled matches exactly if the text does. -/
theorem Peels.matched_iff (peels : Peels count text left) : Matched left ↔ Matched text := by
  induction peels with
  | stop _ => exact Iff.rfl
  | @pair count inside left matched _ ih =>
      obtain ⟨front, back, frontBlank, backBlank, same⟩ := exists_blanks_around inside
      have within : Matched (trim inside) := .of_blanks_around frontBlank backBlank (same ▸ matched)
      have outside : Matched ('(' :: (inside ++ [')'])) := by
        have held := balanced_pair (balanced_iff_matched.mpr matched) .none .none
        simpa [balanced_iff_matched] using held.2
      exact iff_of_true (ih.mpr within) outside

/-! ## Literals in parentheses -/

/-- **Only the parentheses that enclose all of a text are taken off.**  Pairs come off as long as one encloses the
text, and not a pair more.  What is left gives the text back when it is put in as many pairs with blanks in them, and
its parentheses match exactly if those of the text do.  If they do, then the literal stays the same when it is put in
any pairs with any blanks inside and outside of them. -/
theorem parens_peeled (text : List Char) :
    (∃ pairs : List (Blanks × Blanks), enclose pairs (stripParens text) = text ∧
      ∀ count left, Peels count text left ↔ count = pairs.length ∧ left = stripParens text) ∧
    (Matched (stripParens text) ↔ Matched text) ∧
    (Matched text → ∀ (type : ScalarType) (front back : Blanks) (pairs : List (Blanks × Blanks)),
      normalize type (String.ofList (front.chars ++ (enclose pairs text ++ back.chars))) =
        normalize type (String.ofList text)) := by
  obtain ⟨pairs, peels, whole⟩ := exists_peels text
  refine ⟨⟨pairs, whole, fun count left => ⟨peels.unique, ?_⟩⟩, peels.matched_iff, ?_⟩
  · rintro ⟨rfl, rfl⟩
    exact peels
  · intro matched type front back pairs
    rw [normalize, normalize, bare_enclose (balanced_iff_matched.mpr matched)]

/-- The first and the last parenthesis of the sum are no pair, so only the pair around it comes off. -/
theorem parens_peeled_of_sum :
    Matched "(1U)+(2U)".toList ∧ Peels 1 "((1U)+(2U) )".toList "(1U)+(2U)".toList ∧
    normalize .u32 "\t((1U)+(2U) )\n" = "(1)+(2)" := by
  have matched : Matched "(1U)+(2U)".toList := balanced_iff_matched.mp (by decide)
  have spaced : Matched "(1U)+(2U) ".toList := balanced_iff_matched.mp (by decide)
  have peels : Peels 1 "((1U)+(2U) )".toList "(1U)+(2U)".toList :=
    .pair spaced (.stop (enclosed?_eq_none_iff.mp (by decide)))
  have same := (parens_peeled "(1U)+(2U)".toList).2.2 matched .u32 ⟨['\t'], rfl⟩ ⟨['\n'], rfl⟩ [(.none, .space)]
  refine ⟨matched, peels, ?_⟩
  calc normalize .u32 "\t((1U)+(2U) )\n"
    _ = normalize .u32 "(1U)+(2U)" := same
    _ = "(1)+(2)" := by decide +kernel

end ApiBindings.Literal
