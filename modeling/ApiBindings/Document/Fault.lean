import ApiBindings.Decimal.Notation
import ApiBindings.Text.Quoted

/-!
# Faults of a document text

Reading a document stops at its first fault.  A fault has a cause, which knows its wording, and a place,
which is kept as the number of bytes that lie behind it, so that a reader needs to know nothing about
the text in front.  `Fault.position` turns the place into a line and a column of the whole text.
-/

namespace ApiBindings.Document

set_option autoImplicit false

/-! ## Causes -/

/-- The kind of value that is read. -/
inductive Wanted where
  | text
  | boolean
  | sequence
  | unit
  | u8
  | u32
  | i64
  | record (name : String)
  deriving DecidableEq, Repr

/-- How a message names the wanted kind. -/
def Wanted.description : Wanted → String
  | text => "a string"
  | boolean => "a boolean"
  | sequence => "a sequence"
  | unit => "unit"
  | u8 => "u8"
  | u32 => "u32"
  | i64 => "i64"
  | record name => "struct " ++ name

/-- A value of another kind than the wanted one. -/
inductive Found where
  | null
  | boolean (value : Bool)
  | integer (value : Int)
  | float (value : Float)
  | text (value : String)
  | sequence
  | map
  deriving Repr

/-- How a message shows what was found. -/
def Found.description : Found → String
  | null => "null"
  | boolean value => "boolean `" ++ (if value then "true" else "false") ++ "`"
  | integer value => "integer `" ++ toString value ++ "`"
  | float value => "floating point `" ++ Decimal.text value ++ "`"
  | text value => "string " ++ Text.quoted value
  | sequence => "sequence"
  | map => "map"

/-- Names as a message offers them to choose from. -/
def oneOf : List String → String
  | [only] => "`" ++ only ++ "`"
  | [first, second] => "`" ++ first ++ "` or `" ++ second ++ "`"
  | names => "one of " ++ ", ".intercalate (names.map fun name => "`" ++ name ++ "`")

/-- Why a text is no registry document. -/
inductive Cause where
  | endInValue
  | endInList
  | endInObject
  | endInText
  | expectedValue
  | expectedWord
  | expectedColon
  | expectedListEnd
  | expectedObjectEnd
  | keyNotText
  | trailingComma
  | trailingCharacters
  | invalidNumber
  | numberOutOfRange
  | controlCharacter
  | invalidEscape
  | unpairedSurrogate
  | unfinishedSurrogate
  | wrongKind (found : Found) (wanted : Wanted)
  | outOfRange (value : Int) (wanted : Wanted)
  | wrongLength (length : Nat) (record : String) (fields : Nat)
  | unknownField (key : String) (known : List String)
  | duplicateField (key : String)
  | missingField (key : String)
  | unknownVariant (name : String) (known : List String)
  deriving Repr

/-- The wording of a cause. -/
def Cause.message : Cause → String
  | endInValue => "EOF while parsing a value"
  | endInList => "EOF while parsing a list"
  | endInObject => "EOF while parsing an object"
  | endInText => "EOF while parsing a string"
  | expectedValue => "expected value"
  | expectedWord => "expected ident"
  | expectedColon => "expected `:`"
  | expectedListEnd => "expected `,` or `]`"
  | expectedObjectEnd => "expected `,` or `\x7d`"
  | keyNotText => "key must be a string"
  | trailingComma => "trailing comma"
  | trailingCharacters => "trailing characters"
  | invalidNumber => "invalid number"
  | numberOutOfRange => "number out of range"
  | controlCharacter => "control character (\\u0000-\\u001F) found while parsing a string"
  | invalidEscape => "invalid escape"
  | unpairedSurrogate => "lone leading surrogate in hex escape"
  | unfinishedSurrogate => "unexpected end of hex escape"
  | wrongKind found wanted =>
    "invalid type: " ++ found.description ++ ", expected " ++ wanted.description
  | outOfRange value wanted =>
    "invalid value: integer `" ++ toString value ++ "`, expected " ++ wanted.description
  | wrongLength length record fields =>
    "invalid length " ++ toString length ++ ", expected struct " ++ record ++ " with "
      ++ toString fields ++ " elements"
  | unknownField key known => "unknown field `" ++ key ++ "`, expected " ++ oneOf known
  | duplicateField key => "duplicate field `" ++ key ++ "`"
  | missingField key => "missing field `" ++ key ++ "`"
  | unknownVariant name known => "unknown variant `" ++ name ++ "`, expected " ++ oneOf known

/-! ## Places -/

/-- The number of bytes that a text takes in UTF-8. -/
def byteLength (text : List Char) : Nat := (text.map Char.utf8Size).foldr (· + ·) 0

/-- A fault and its place. -/
structure Fault where
  cause : Cause
  /-- How many bytes of the text lie behind the place. -/
  bytesBehind : Nat
  deriving Repr

/-- A place in a text: lines count from one, columns are the bytes since the line began. -/
structure Position where
  line : Nat
  column : Nat
  deriving DecidableEq, Repr

/-- Where one is after a number of bytes of a text, from a given position on. -/
def Position.advance (position : Position) (bytes : Nat) : List Char → Position
  | [] => position
  | c :: rest =>
    if bytes < c.utf8Size then ⟨position.line, position.column + bytes⟩
    else if c = '\n' then Position.advance ⟨position.line + 1, 0⟩ (bytes - c.utf8Size) rest
    else
      Position.advance ⟨position.line, position.column + c.utf8Size⟩ (bytes - c.utf8Size) rest

/-- The place of a fault in the text it was met in. -/
def Fault.position (fault : Fault) (text : List Char) : Position :=
  Position.advance ⟨1, 0⟩ (byteLength text - fault.bytesBehind) text

/-- The wording of a fault, with its place in the text. -/
def Fault.message (fault : Fault) (text : List Char) : String :=
  let position := fault.position text
  fault.cause.message ++ " at line " ++ toString position.line ++ " column "
    ++ toString position.column

end ApiBindings.Document
