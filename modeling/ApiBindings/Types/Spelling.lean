import ApiBindings.Text.Blank

/-!
# C type spellings

A type is written in a registry the way C writes it: a named type, qualifiers, and a star for every
pointer level.  This module reads such a spelling.  `baseName` keeps the named type alone, and
`Spelling.parse` keeps the named type together with the pointer levels, each of which records whether
what it points to is `const`.
-/

namespace ApiBindings.Types

set_option autoImplicit false

open ApiBindings.Text

/-! ## The named type -/

/-- Drops one leading and one trailing `const` from a text without stars, and the blanks around. -/
def dropConst (text : List Char) : List Char :=
  trim (dropEnding [' ', 'c', 'o', 'n', 's', 't'] (dropStart ['c', 'o', 'n', 's', 't', ' '] (trim text)))

/-- The part of a spelling before its first star. -/
def beforeStars (text : List Char) : List Char := (cut (· == '*') text).1

/-- The named type of a spelling, without qualifiers and pointer levels. -/
def baseName (spelling : String) : String :=
  String.ofList (dropConst (beforeStars spelling.toList))

/-! ## Named type and pointer levels -/

/-- A type spelling read as a named type under pointer levels. -/
structure Spelling where
  /-- The named type. -/
  base : String
  /-- For each pointer level, innermost first, whether its pointee is `const`. -/
  levels : List Bool
  deriving DecidableEq, Repr, Inhabited

/-- Whether `const` is one of the words of a text. -/
def mentionsConst (text : List Char) : Bool := (words text).contains ['c', 'o', 'n', 's', 't']

/-- One flag per star: whether the text between it and the star before it mentions `const`. -/
def levelFlags (head : List Char) (afterStars : List (List Char)) : List Bool :=
  ((head :: afterStars).take afterStars.length).map mentionsConst

/-- Reads a spelling; a `struct` in front of the named type is dropped. -/
def Spelling.parse (spelling : String) : Spelling :=
  let parts := cut (· == '*') spelling.toList
  { base := String.ofList (trim (dropStart ['s', 't', 'r', 'u', 'c', 't', ' '] (dropConst parts.1)))
    levels := levelFlags parts.1 parts.2 }

/-- There is one pointer level for every star. -/
theorem Spelling.length_levels_parse (spelling : String) :
    (Spelling.parse spelling).levels.length = spelling.toList.countP (· == '*') := by
  have h := length_pieces (· == '*') spelling.toList
  simp only [pieces, List.length_cons] at h
  simp [Spelling.parse, levelFlags]
  omega

end ApiBindings.Types
