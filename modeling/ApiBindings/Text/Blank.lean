/-!
# Blank characters

Names and type spellings are read without the blanks around them, and words are what blanks separate.
This module fixes the class of blank characters, which is the Unicode property `White_Space` and so
contains U+00A0 and U+3000 but neither U+200B nor U+FEFF, and builds the operations that depend on it:
trimming both ends of a text, cutting a text at the characters of a class, and listing its words.

All operations work on lists of characters.  The statements beside them say that trimming and cutting
lose nothing but what they are meant to drop.
-/

namespace ApiBindings.Text

set_option autoImplicit false

/-! ## The class -/

/-- Whether a character has the Unicode property `White_Space`. -/
def isBlank (c : Char) : Bool :=
  let n := c.toNat
  (9 ≤ n && n ≤ 13) || n == 0x20 || n == 0x85 || n == 0xA0 || n == 0x1680
    || (0x2000 ≤ n && n ≤ 0x200A) || n == 0x2028 || n == 0x2029 || n == 0x202F || n == 0x205F
    || n == 0x3000

/-- A text of blanks only, the empty text included. -/
def allBlank (text : String) : Bool := text.toList.all isBlank

/-! ## Trimming -/

/-- Drops the blanks at the end. -/
def trimEnd (text : List Char) : List Char := (text.reverse.dropWhile isBlank).reverse

/-- Drops the blanks at both ends. -/
def trim (text : List Char) : List Char := trimEnd (text.dropWhile isBlank)

/-! ## Cutting -/

/-- The text before the first character of the class, and the texts after each of them. -/
def cut (p : Char → Bool) : List Char → List Char × List (List Char)
  | [] => ([], [])
  | c :: rest =>
    let pieces := cut p rest
    if p c then ([], pieces.1 :: pieces.2) else (c :: pieces.1, pieces.2)

/-- The pieces of a text between the characters of the class, empty ones included. -/
def pieces (p : Char → Bool) (text : List Char) : List (List Char) :=
  (cut p text).1 :: (cut p text).2

/-- The words of a text: its non-empty pieces between blanks. -/
def words (text : List Char) : List (List Char) := (pieces isBlank text).filter (!·.isEmpty)

/-- There is one piece more than there are characters to cut at. -/
theorem length_pieces (p : Char → Bool) (text : List Char) :
    (pieces p text).length = text.countP p + 1 := by
  induction text with
  | nil => rfl
  | cons c rest ih =>
    by_cases h : p c <;> simp_all [pieces, cut]

/-- Putting the mark between the pieces gives back the text that was cut at it. -/
theorem intercalate_pieces (mark : Char) (text : List Char) :
    [mark].intercalate (pieces (· == mark) text) = text := by
  induction text with
  | nil => rfl
  | cons c rest ih =>
    rw [pieces] at ih
    by_cases h : c = mark
    · subst h
      simpa [pieces, cut, List.intercalate] using ih
    · rcases hc : cut (· == mark) rest with ⟨first, others⟩
      rw [hc] at ih
      cases others <;> simp_all [pieces, cut, List.intercalate]

/-! ## Affixes -/

/-- Drops `start` from the front of the text, once and if it is there. -/
def dropStart (start text : List Char) : List Char :=
  if start.isPrefixOf text then text.drop start.length else text

/-- Drops `ending` from the back of the text, once and if it is there. -/
def dropEnding (ending text : List Char) : List Char :=
  if ending.isSuffixOf text then text.take (text.length - ending.length) else text

end ApiBindings.Text
