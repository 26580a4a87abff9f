import ApiBindings.Literal
import Mathlib.Data.List.TakeWhile

/-!
# Classes of characters

What a text starts with of a class of characters ends in front of the first character outside of it.

The classes that literals are made of are ranges of code points.  Digits of any base are letters or digits, and
these are neither blanks nor, a digit at least, the start of a word.
-/

namespace ApiBindings

set_option autoImplicit false

namespace Text

variable {p : Char → Bool} {front rest : List Char} (all : ∀ c ∈ front, p c = true)
  (stops : ∀ c ∈ rest.head?, p c = false)

include all stops

/-- Of a text that goes on with a character outside of the class, just the characters in front are taken. -/
theorem takeWhile_append_of_stops : (front ++ rest).takeWhile p = front := by
  rw [List.takeWhile_append_of_pos all]
  cases rest with
  | nil => rw [List.takeWhile_nil, List.append_nil]
  | cons c rest => rw [List.takeWhile_cons_of_neg (by simp [stops c rfl]), List.append_nil]

theorem dropWhile_append_of_stops : (front ++ rest).dropWhile p = rest := by
  rw [List.dropWhile_append_of_pos all]
  cases rest with
  | nil => rfl
  | cons c rest => exact List.dropWhile_cons_of_neg (by simp [stops c rfl])

end Text

namespace Literal

open ApiBindings.Text

theorem isDigit_iff_toNat {c : Char} : c.isDigit = true ↔ 48 ≤ c.toNat ∧ c.toNat ≤ 57 := by
  simp only [Char.isDigit, Bool.and_eq_true, decide_eq_true_eq, ge_iff_le]
  exact Iff.rfl

theorem isAlpha_iff_toNat {c : Char} : c.isAlpha = true ↔
    65 ≤ c.toNat ∧ c.toNat ≤ 90 ∨ 97 ≤ c.toNat ∧ c.toNat ≤ 122 := by
  have ranges : c.isAlpha = (decide (c.val ≥ 'A'.val ∧ c.val ≤ 'Z'.val) ||
      (decide (c.val ≥ 'a'.val) && decide (c.val ≤ 'z'.val))) := rfl
  simp only [ranges, Bool.or_eq_true, Bool.and_eq_true, decide_eq_true_eq]
  exact Iff.rfl

theorem isHexDigit_iff_toNat {c : Char} : isHexDigit c = true ↔
    (48 ≤ c.toNat ∧ c.toNat ≤ 57 ∨ 97 ≤ c.toNat ∧ c.toNat ≤ 102) ∨ 65 ≤ c.toNat ∧ c.toNat ≤ 70 := by
  simp only [isHexDigit, Bool.or_eq_true, Bool.and_eq_true, decide_eq_true_eq, isDigit_iff_toNat]
  exact Iff.rfl

theorem isAlphanum_of_isDigit {c : Char} (digit : c.isDigit = true) : c.isAlphanum = true := by
  rw [Char.isAlphanum, digit, Bool.or_true]

theorem isAlphanum_of_isHexDigit {c : Char} (digit : isHexDigit c = true) : c.isAlphanum = true := by
  rw [isHexDigit_iff_toNat] at digit
  rw [Char.isAlphanum, Bool.or_eq_true, isAlpha_iff_toNat, isDigit_iff_toNat]
  omega

theorem not_isBlank_of_isAlphanum {c : Char} (letter : c.isAlphanum = true) : isBlank c = false := by
  rw [Char.isAlphanum, Bool.or_eq_true, isAlpha_iff_toNat, isDigit_iff_toNat] at letter
  rw [← Bool.not_eq_true]
  simp only [isBlank, Bool.or_eq_true, Bool.and_eq_true, decide_eq_true_eq, beq_iff_eq]
  omega

theorem not_isWordStart_of_isDigit {c : Char} (digit : c.isDigit = true) : isWordStart c = false := by
  have noLetter : c.isAlpha = false := by
    rw [isDigit_iff_toNat] at digit
    rw [← Bool.not_eq_true, isAlpha_iff_toNat]
    omega
  have noLine : c ≠ '_' := by
    rintro rfl
    exact absurd digit (by decide)
  rw [isWordStart, noLetter, Bool.false_or, beq_eq_false_iff_ne]
  exact noLine

end Literal

end ApiBindings
