import ApiBindings.Text.Blank

/-!
# Paths

A path is text with slashes between its steps.  This module joins paths, takes them apart, and finds the
directory above.  Empty steps mean nothing; the step `.` stays in place, so it means nothing either at
the end of a path, except that the path must then lead to a directory.

`ofPieces_pieces` states that a path can be put together again from its pieces, and
`length_parent_lt` that going up ends.
-/

namespace ApiBindings.Path

set_option autoImplicit false

/-- The path of a name below a directory; the empty path is the current directory. -/
def join (directory name : String) : String :=
  if directory.toList.isEmpty then name
  else if directory.toList.getLast? = some '/' then directory ++ name
  else directory ++ "/" ++ name

/-- Whether a path starts at the root of the file system. -/
def isAbsolute (path : String) : Bool := path.toList.head? = some '/'

/-! ## Steps -/

/-- The pieces of a path between its slashes, empty ones included. -/
def pieces (path : String) : List String :=
  (Text.pieces (· == '/') path.toList).map String.ofList

/-- The path of some pieces. -/
def ofPieces (pieces : List String) : String := "/".intercalate pieces

/-- Pieces make up the path they come from. -/
theorem ofPieces_pieces (path : String) : ofPieces (pieces path) = path := by
  apply String.toList_injective
  simp [ofPieces, pieces, String.toList_intercalate, Function.comp_def, Text.intercalate_pieces]

/-- The steps of a path. -/
def steps (path : String) : List String := (pieces path).filter (· ≠ "")

/-- The steps of a path that must lead to a directory if it ends in a slash. -/
def strictSteps (path : String) : List String :=
  if path.toList.getLast? = some '/' then steps path ++ ["."] else steps path

/-! ## Directories above -/

/-- The pieces without those at the end that stay in place. -/
def dropStill (pieces : List String) : List String :=
  (pieces.reverse.dropWhile fun piece => piece = "" || piece = ".").reverse

/-- The pieces of the directory above. -/
def parent (pieces : List String) : List String := dropStill (dropStill pieces).dropLast

/-- Whether pieces lead nowhere, or to the root of the file system. -/
def isTop (pieces : List String) : Bool :=
  (dropStill pieces).isEmpty && pieces.head? ≠ some "."

theorem length_dropStill_le (pieces : List String) : (dropStill pieces).length ≤ pieces.length := by
  have := (List.dropWhile_sublist (fun piece => decide (piece = "") || decide (piece = "."))
    (l := pieces.reverse)).length_le
  simpa [dropStill] using this

/-- The directory above is closer to the root. -/
theorem length_parent_lt {pieces : List String} (h : pieces ≠ []) :
    (parent pieces).length < pieces.length := by
  have h₁ := length_dropStill_le (dropStill pieces).dropLast
  have h₂ := length_dropStill_le pieces
  have h₃ := List.length_pos_iff.2 h
  simp only [parent, List.length_dropLast] at *
  omega

theorem ne_nil_of_not_isTop {pieces : List String} (h : ¬ isTop pieces) : pieces ≠ [] := by
  rintro rfl
  exact h rfl

/-! ## Limits -/

/-- The greatest number of bytes in a step. -/
def stepLimit : Nat := 255

/-- The greatest number of bytes in a path. -/
def pathLimit : Nat := 4095

/-- Whether a step has more bytes than a name can have. -/
def isLongStep (step : String) : Bool := stepLimit < step.utf8ByteSize

/-- Whether a path has more bytes than the system takes. -/
def isLong (path : String) : Bool := pathLimit < path.utf8ByteSize

/-- Whether a path holds a character that no path can hold. -/
def hasNul (path : String) : Bool := path.toList.contains '\x00'

end ApiBindings.Path
