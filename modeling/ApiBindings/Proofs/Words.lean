import ApiBindings.Proofs.BareWord
import Mathlib.Data.List.DropRight

/-!
# Words of a text

The words of a text are what its blanks separate.  All that is said of them here follows from one equation:
the words of a text with a blank in it are those in front of the blank and those behind it
(`words_append_blank`).  So blanks around a text and the number of blanks between two words make no difference,
and neither does trimming (`words_trim`).

A text is framed when blanks are neither its first nor its last character.  What stands between two framed
texts is framed by them, and trimming takes off just the blanks around a framed text (`Framed.trim`).
-/

namespace ApiBindings.Text

set_option autoImplicit false

variable {text rest : List Char}

/-! ## Pieces -/

/-- A text with a mark in it has the pieces in front of the mark and those behind it. -/
theorem pieces_append_mark {p : Char → Bool} {mark : Char} (marks : p mark = true)
    (text rest : List Char) : pieces p (text ++ mark :: rest) = pieces p text ++ pieces p rest := by
  induction text with
  | nil => simp [pieces, cut, marks]
  | cons c text ih =>
      simp only [pieces, List.cons_append, List.cons.injEq] at ih
      cases found : p c <;> simp [pieces, cut, found, ih]

theorem pieces_of_none {p : Char → Bool} (unmarked : ∀ c ∈ text, p c = false) :
    pieces p text = [text] := by
  rw [pieces, cut_of_none unmarked]

theorem exists_piece_of_mem {p : Char → Bool} {c : Char} (kept : p c = false) (mem : c ∈ text) :
    ∃ piece ∈ pieces p text, c ∈ piece := by
  obtain ⟨front, back, rfl⟩ := List.append_of_mem mem
  clear mem
  induction front with
  | nil => exact ⟨_, List.mem_cons_self, by simp [cut, kept]⟩
  | cons d front ih =>
      obtain ⟨piece, mem, found⟩ := ih
      rw [List.cons_append, pieces, cut]
      cases marks : p d with
      | true => exact ⟨piece, List.mem_cons_of_mem _ mem, found⟩
      | false =>
          rcases List.mem_cons.mp mem with rfl | mem
          · exact ⟨_, List.mem_cons_self, List.mem_cons_of_mem _ found⟩
          · exact ⟨piece, List.mem_cons_of_mem _ mem, found⟩

theorem pieces_of_notMem {mark : Char} (absent : mark ∉ text) : pieces (· == mark) text = [text] := by
  refine pieces_of_none fun c mem => ?_
  rw [beq_eq_false_iff_ne]
  exact fun same => absent (same ▸ mem)

/-- Texts without the mark are the pieces of the text that has the mark between each two of them. -/
theorem pieces_of_marked {mark : Char} {first : List Char} {others : List (List Char)}
    (unmarked : ∀ piece ∈ first :: others, mark ∉ piece) :
    pieces (· == mark) (first ++ others.flatMap (mark :: ·)) = first :: others := by
  obtain ⟨here, later⟩ := List.forall_mem_cons.mp unmarked
  induction others generalizing first with
  | nil => rw [List.flatMap_nil, List.append_nil, pieces_of_notMem here]
  | cons second others ih =>
      obtain ⟨next, rest⟩ := List.forall_mem_cons.mp later
      rw [List.flatMap_cons, List.cons_append, pieces_append_mark (by simp), pieces_of_notMem here,
        ih later next rest]
      rfl

/-! ## Texts of blanks -/

/-- Nothing but blanks. -/
abbrev Blank (text : List Char) : Prop := ∀ c ∈ text, isBlank c = true

/-- Blanks, possibly none. -/
structure Blanks where
  chars : List Char
  blank : chars.all isBlank = true

theorem Blanks.isBlank (blanks : Blanks) : Blank blanks.chars := List.all_eq_true.mp blanks.blank

/-- No blanks. -/
def Blanks.none : Blanks := ⟨[], rfl⟩

/-- A single space. -/
def Blanks.space : Blanks := ⟨[' '], rfl⟩

@[simp]
theorem Blanks.chars_none : Blanks.none.chars = [] := rfl

@[simp]
theorem Blanks.chars_space : Blanks.space.chars = [' '] := rfl

/-- No blanks, and something else. -/
structure Solid (text : List Char) : Prop where
  ne_nil : text ≠ []
  noBlank : ∀ c ∈ text, isBlank c = false

/-- **The words of a text with a blank in it are those in front of the blank and those behind it.** -/
theorem words_append_blank {c : Char} (blank : isBlank c = true) (text rest : List Char) :
    words (text ++ c :: rest) = words text ++ words rest := by
  rw [words, pieces_append_mark blank, List.filter_append]
  rfl

theorem words_nil : words [] = [] := rfl

/-- Blanks in front of a text belong to no word. -/
theorem words_blank_append {blanks : List Char} (blank : Blank blanks) (text : List Char) :
    words (blanks ++ text) = words text := by
  induction blanks with
  | nil => rfl
  | cons c blanks ih =>
      obtain ⟨here, later⟩ := List.forall_mem_cons.mp blank
      rw [List.cons_append, ← List.nil_append (c :: _), words_append_blank here, words_nil, ih later]
      rfl

/-- Blanks between two texts keep their words apart. -/
theorem words_append_gap {gap : List Char} (nonempty : gap ≠ []) (blank : Blank gap)
    (text rest : List Char) : words (text ++ (gap ++ rest)) = words text ++ words rest := by
  obtain ⟨c, more, rfl⟩ := List.exists_cons_of_ne_nil nonempty
  obtain ⟨here, later⟩ := List.forall_mem_cons.mp blank
  rw [List.cons_append, words_append_blank here, words_blank_append later]

theorem words_of_blank (blank : Blank text) : words text = [] := by
  rw [← List.append_nil text, words_blank_append blank, words_nil]

theorem words_append_blanks {blanks : List Char} (blank : Blank blanks) (text : List Char) :
    words (text ++ blanks) = words text := by
  cases blanks with
  | nil => rw [List.append_nil]
  | cons c blanks =>
      obtain ⟨here, later⟩ := List.forall_mem_cons.mp blank
      rw [words_append_blank here, words_of_blank later, List.append_nil]

theorem Solid.words (solid : Solid text) : words text = [text] := by
  rw [Text.words, pieces_of_none solid.noBlank]
  simp [solid.ne_nil]

/-- What is no blank is in one of the words. -/
theorem exists_word_of_mem {c : Char} (solid : isBlank c = false) (mem : c ∈ text) :
    ∃ word ∈ words text, c ∈ word := by
  obtain ⟨piece, found, inside⟩ := exists_piece_of_mem solid mem
  exact ⟨piece, List.mem_filter.mpr ⟨found, by cases piece <;> simp_all⟩, inside⟩

/-! ## Trimming -/

/-- A text is what trimming leaves of it, with blanks around. -/
theorem exists_blanks_around (text : List Char) :
    ∃ front back, Blank front ∧ Blank back ∧ text = front ++ (trim text ++ back) := by
  have kept : trim text <+: text.dropWhile isBlank := List.rdropWhile_prefix isBlank _
  obtain ⟨back, rest⟩ := kept
  refine ⟨text.takeWhile isBlank, back, fun c => List.mem_takeWhile_imp, ?_, ?_⟩
  · have dropped : back = (text.dropWhile isBlank).rtakeWhile isBlank := by
      have whole := List.rdropWhile_append_rtakeWhile (p := isBlank) (l := text.dropWhile isBlank)
      exact List.append_cancel_left (rest.trans whole.symm)
    rw [dropped]
    exact fun c => List.mem_rtakeWhile_imp
  · rw [rest, List.takeWhile_append_dropWhile]

/-- Blanks behind a text make no difference to trimming. -/
theorem trim_append_blank {back : List Char} (blank : Blank back) (text : List Char) :
    trim (text ++ back) = trim text := by
  have ending (kept : List Char) : trimEnd (kept ++ back) = trimEnd kept := by
    rw [trimEnd, List.reverse_append, List.dropWhile_append_of_pos fun c mem => blank c (List.mem_reverse.mp mem)]
    rfl
  rw [trim, List.dropWhile_append]
  split
  · next empty => rw [trim, List.isEmpty_iff.mp empty, List.dropWhile_eq_nil_iff.mpr blank]
  · exact ending _

/-- Blanks around a text make no difference to trimming, also where the text has blanks at its ends. -/
theorem trim_blanks_around (front back : Blanks) (text : List Char) :
    trim (front.chars ++ (text ++ back.chars)) = trim text := by
  rw [trim, List.dropWhile_append_of_pos front.isBlank]
  exact trim_append_blank back.isBlank text

/-- Trimming keeps the words. -/
theorem words_trim (text : List Char) : words (trim text) = words text := by
  obtain ⟨front, back, frontBlank, backBlank, same⟩ := exists_blanks_around text
  conv_rhs => rw [same]
  rw [words_blank_append frontBlank, words_append_blanks backBlank]

/-- A text whose first and last characters are no blanks. -/
structure Framed (text : List Char) : Prop where
  first : ∃ c rest, text = c :: rest ∧ isBlank c = false
  last : ∃ rest c, text = rest ++ [c] ∧ isBlank c = false

theorem Solid.framed (solid : Solid text) : Framed text where
  first := by
    obtain ⟨c, rest, rfl⟩ := List.exists_cons_of_ne_nil solid.ne_nil
    exact ⟨c, rest, rfl, solid.noBlank c List.mem_cons_self⟩
  last := by
    have whole := List.dropLast_append_getLast solid.ne_nil
    exact ⟨_, _, whole.symm, solid.noBlank _ (List.getLast_mem solid.ne_nil)⟩

/-- Two framed texts frame what stands between them. -/
theorem Framed.between {front back : List Char} (frontFramed : Framed front) (backFramed : Framed back)
    (middle : List Char) : Framed (front ++ (middle ++ back)) where
  first := by
    obtain ⟨c, rest, rfl, solid⟩ := frontFramed.first
    exact ⟨c, rest ++ (middle ++ back), rfl, solid⟩
  last := by
    obtain ⟨rest, c, rfl, solid⟩ := backFramed.last
    exact ⟨front ++ (middle ++ rest), c, by simp only [List.append_assoc], solid⟩

/-- **Trimming takes off the blanks around a framed text.** -/
theorem Framed.trim {front back : List Char} (framed : Framed text) (frontBlank : Blank front)
    (backBlank : Blank back) : trim (front ++ (text ++ back)) = text := by
  have start : (front ++ (text ++ back)).dropWhile isBlank = text ++ back := by
    obtain ⟨c, rest, rfl, solid⟩ := framed.first
    rw [List.dropWhile_append_of_pos frontBlank, List.cons_append, List.dropWhile_cons_of_neg (by simp [solid])]
  have stop : (text ++ back).rdropWhile isBlank = text := by
    obtain ⟨rest, c, rfl, solid⟩ := framed.last
    rw [List.rdropWhile, List.reverse_append, List.reverse_append,
      List.dropWhile_append_of_pos fun c mem => backBlank c (List.mem_reverse.mp mem)]
    simp [solid]
  rw [Text.trim, start]
  exact stop

/-- A text without blanks at either end is trimmed already. -/
theorem trim_of_ends (start : ∀ c ∈ text.head?, isBlank c = false)
    (stop : ∀ c ∈ text.getLast?, isBlank c = false) : Text.trim text = text := by
  obtain rfl | ⟨before, last, whole⟩ := List.eq_nil_or_concat text
  · rfl
  · rw [List.concat_eq_append] at whole
    have framed : Framed text := by
      constructor
      · obtain ⟨c, rest, found⟩ := List.exists_cons_of_ne_nil (l := text) (by simp [whole])
        exact ⟨c, rest, found, start c (by simp [found])⟩
      · exact ⟨before, last, whole, stop last (by simp [whole])⟩
    have trimmed : Text.trim ([] ++ (text ++ [])) = text :=
      framed.trim (List.forall_mem_nil _) (List.forall_mem_nil _)
    rwa [List.nil_append, List.append_nil] at trimmed

end ApiBindings.Text
