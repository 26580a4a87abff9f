import ApiBindings.Document.Reader

/-!
# Scalars of a document

Readers for the texts, numbers, booleans and nulls of a document, each behind any blanks in front of
it.  A value of another kind than the wanted one is read to its end before it is refused, so that a
fault inside it comes first.
-/

namespace ApiBindings.Document.Reader

set_option autoImplicit false

/-! ## Texts -/

/-- The value of a hexadecimal digit. -/
def hexDigit? (c : Char) : Option Nat :=
  if '0' ≤ c && c ≤ '9' then some (c.toNat - '0'.toNat)
  else if 'a' ≤ c && c ≤ 'f' then some (c.toNat - 'a'.toNat + 10)
  else if 'A' ≤ c && c ≤ 'F' then some (c.toNat - 'A'.toNat + 10)
  else none

/-- The four hexadecimal digits of a code unit.  Four bytes are taken before they are looked at. -/
def codeUnit : Reader Nat := do
  let text ← look
  if byteLength text < 4 then failAt .endInText 0
  else
    match text.take 4 |>.mapM hexDigit? with
    | some digits =>
      skip 4
      return digits.foldl (fun value digit => 16 * value + digit) 0
    | none => failAt .invalidEscape (byteLength text - 4)

/-- Takes a given character of the second half of a surrogate pair. -/
def pairMark (mark : Char) : Reader Unit := do
  match (← look).head? with
  | none => fail .endInText
  | some c => if c = mark then skip 1 else failNext .unfinishedSurrogate

/-- The character of an escape by code units, behind its `\u`.  A character beyond the first plane is
written as two escapes, a leading surrogate and a trailing one. -/
def escapedUnit : Reader Char := do
  let unit ← codeUnit
  if 0xDC00 ≤ unit && unit ≤ 0xDFFF then fail .unpairedSurrogate
  else if unit < 0xD800 || 0xDBFF < unit then return Char.ofNat unit
  else
    pairMark '\\'
    pairMark 'u'
    let trailing ← codeUnit
    if trailing < 0xDC00 || 0xDFFF < trailing then fail .unpairedSurrogate
    else return Char.ofNat (0x10000 + (unit - 0xD800) * 0x400 + (trailing - 0xDC00))

/-- The character that a letter stands for behind a backslash. -/
def shortEscape? : Char → Option Char
  | '"' => some '"'
  | '\\' => some '\\'
  | '/' => some '/'
  | 'b' => some '\x08'
  | 'f' => some '\x0c'
  | 'n' => some '\n'
  | 'r' => some '\r'
  | 't' => some '\t'
  | _ => none

/-- The character of an escape, behind its backslash. -/
def escaped : Reader Char := do
  match (← look).head? with
  | none => fail .endInText
  | some 'u' =>
    skip 1
    escapedUnit
  | some c =>
    match shortEscape? c with
    | some meant =>
      skip 1
      return meant
    | none => failNext .invalidEscape

/-- The characters of a text up to its closing quote, behind those already read, which come in reverse
order. -/
def textBody (read : List Char) : Reader String
  | [] => .error ⟨.endInText, 0⟩
  | c :: rest =>
    if c = '"' then .ok ⟨String.ofList read.reverse, rest, Nat.le_succ _⟩
    else if c = '\\' then
      match escaped rest with
      | .error fault => .error fault
      | .ok taken =>
        (textBody (taken.value :: read) taken.rest).map
          (·.weaken (Nat.le_trans taken.le (Nat.le_succ _)))
    else if c < ' ' then .error ⟨.controlCharacter, byteLength (c :: rest) - 1⟩
    else (textBody (c :: read) rest).map (·.weaken (Nat.le_succ _))
  termination_by text => text.length
  decreasing_by
    · have := taken.le
      simp only [List.length_cons]
      omega
    · simp

/-! ## Words -/

/-- Takes the letters of a word, behind its first one. -/
def wordTail : List Char → Reader Unit
  | [] => return ()
  | letter :: letters => do
    match (← look).head? with
    | none => fail .endInValue
    | some c =>
      if c = letter then
        skip 1
        wordTail letters
      else failNext .expectedWord

/-! ## Numbers -/

/-- A number of a document. -/
inductive Number where
  | integer (value : Int)
  | float (value : Float)
  deriving Repr

/-- What a number is when another kind of value is wanted. -/
def Number.found : Number → Found
  | integer value => .integer value
  | float value => .float value

/-- The value of a decimal digit. -/
def digitValue (c : Char) : Nat := c.toNat - '0'.toNat

/-- Appends digits to a number as long as the result has 64 bits; the digits from the first one that
does not fit are left over. -/
def appendDigits (value : Nat) : List Char → Nat × List Char
  | [] => (value, [])
  | digit :: digits =>
    if value * 10 + digitValue digit < Nat.pow 2 64 then
      appendDigits (value * 10 + digitValue digit) digits
    else (value, digit :: digits)

/-- `x · 10 ^ exponent`, by one product or quotient with a power of ten, and in steps of `10 ^ 308`
below that; `none` if the result is too large. -/
def scaled (x : Float) (exponent : Int) : Option Float :=
  if exponent.natAbs ≤ 308 then
    let power := Float.ofScientific 1 false exponent.natAbs
    if 0 ≤ exponent then
      if (x * power).isInf then none else some (x * power)
    else some (x / power)
  else if x == 0 then some x
  else if 0 ≤ exponent then none
  else scaled (x / Float.ofScientific 1 false 308) (exponent + 308)
  termination_by exponent.natAbs
  decreasing_by omega

/-- The float with a sign, a significand and a power of ten. -/
def floatOf (negative : Bool) (significand : Nat) (exponent : Int) : Reader Number :=
  match scaled significand.toUInt64.toFloat exponent with
  | some x => return .float (if negative then -x else x)
  | none => fail .numberOutOfRange

/-- Takes the digits in front. -/
def digits : Reader (List Char) := do
  let run := (← look).takeWhile Char.isDigit
  skip run.length
  return run

/-- The digits of an exponent, read into `value` and taken one by one.  The exponent is kept as long as
it has 31 bits; a greater one makes a number too large, or too small to differ from zero. -/
def exponentDigits (value : Nat) (isTooLarge : Bool) : List Char → Reader (Option Nat)
  | [] => return some value
  | digit :: digits => do
    skip 1
    let next := value * 10 + digitValue digit
    if next < 2 ^ 31 then exponentDigits next isTooLarge digits
    else if isTooLarge then fail .numberOutOfRange
    else
      skip digits.length
      return none

/-- Takes the sign in front of an exponent, if there is one: whether the exponent is negative. -/
def exponentSign : Reader Bool := do
  let sign := (← look).head?
  if sign = some '+' || sign = some '-' then skip 1
  return sign = some '-'

/-- The digits of an exponent, of which there must be one.  They are not taken. -/
def exponentRun : Reader (List Char) := do
  let text ← look
  if (text.takeWhile Char.isDigit).isEmpty then
    if text.isEmpty then fail .endInValue else failNext .invalidNumber
  else return text.takeWhile Char.isDigit

/-- The exponent in front, behind its `e`, and the float it completes. -/
def exponentPart (negative : Bool) (significand : Nat) (exponent : Int) : Reader Number := do
  let lowers ← exponentSign
  let run ← exponentRun
  match ← exponentDigits 0 (significand ≠ 0 && !lowers) run with
  | some power => floatOf negative significand (if lowers then exponent - power else exponent + power)
  | none => return .float (if negative then -0.0 else 0.0)

/-- What may follow the digits of a float: an exponent or nothing. -/
def floatEnd (negative : Bool) (significand : Nat) (exponent : Int) : Reader Number := do
  let next := (← look).head?
  if next = some 'e' || next = some 'E' then
    skip 1
    exponentPart negative significand exponent
  else floatOf negative significand exponent

/-- The digits behind a point.  Those that no longer fit the significand are dropped. -/
def fraction (negative : Bool) (significand : Nat) (exponent : Int) : Reader Number := do
  let run ← digits
  if run.isEmpty then
    failNext (if (← look).isEmpty then .endInValue else .invalidNumber)
  let (significand, dropped) := appendDigits significand run
  floatEnd negative significand (exponent - (run.length - dropped.length : Nat))

/-- An integer of 64 bits with its sign.  A negative zero and an integer below the range are floats. -/
def integerOf (negative : Bool) (value : Nat) : Number :=
  if negative then
    if value = 0 || Nat.pow 2 63 < value then .float (-value.toUInt64.toFloat) else .integer (-value)
  else .integer value

/-- The digits of a whole part.  A zero in front stands alone. -/
def wholeDigits : Reader (List Char) := do
  match (← look).head? with
  | none => fail .endInValue
  | some c =>
    if c = '0' then
      skip 1
      if (← look).head?.any Char.isDigit then failNext .invalidNumber else return ['0']
    else if c.isDigit then digits
    else failNext .invalidNumber

/-- What may follow a whole part, of which `excess` digits did not fit: a fraction, an exponent or
nothing. -/
def wholeEnd (negative : Bool) (whole excess : Nat) : Reader Number := do
  match (← look).head? with
  | some '.' =>
    skip 1
    fraction negative whole excess
  | some 'e' | some 'E' =>
    skip 1
    exponentPart negative whole excess
  | _ => if excess = 0 then return integerOf negative whole else floatOf negative whole excess

/-- The number in front, behind its sign. -/
def unsigned (negative : Bool) : Reader Number := do
  let (whole, excess) := appendDigits 0 (← wholeDigits)
  wholeEnd negative whole excess.length

/-- The number in front. -/
def number : Reader Number := do
  if (← look).head? = some '-' then
    skip 1
    unsigned true
  else unsigned false

/-! ## Values of the wanted kind -/

/-- Refuses the value in front because another kind is wanted.  Scalars are read to their end first. -/
def refuse {α : Type} (wanted : Wanted) : Reader α := do
  match (← look).head? with
  | some 'n' =>
    skip 1
    wordTail ['u', 'l', 'l']
    fail (.wrongKind .null wanted)
  | some 't' =>
    skip 1
    wordTail ['r', 'u', 'e']
    fail (.wrongKind (.boolean true) wanted)
  | some 'f' =>
    skip 1
    wordTail ['a', 'l', 's', 'e']
    fail (.wrongKind (.boolean false) wanted)
  | some '"' =>
    skip 1
    let text ← textBody []
    fail (.wrongKind (.text text) wanted)
  | some '[' => fail (.wrongKind .sequence wanted)
  | some '\x7b' => fail (.wrongKind .map wanted)
  | some c =>
    if c = '-' || c.isDigit then
      let read ← number
      fail (.wrongKind read.found wanted)
    else failNext .expectedValue
  | none => failNext .endInValue

/-- A text. -/
def text : Reader String := do
  if (← peek) = some '"' then
    skip 1
    textBody []
  else refuse .text

/-- A boolean. -/
def boolean : Reader Bool := do
  match ← peek with
  | some 't' =>
    skip 1
    wordTail ['r', 'u', 'e']
    return true
  | some 'f' =>
    skip 1
    wordTail ['a', 'l', 's', 'e']
    return false
  | _ => refuse .boolean

/-- A null. -/
def unit : Reader Unit := do
  if (← peek) = some 'n' then
    skip 1
    wordTail ['u', 'l', 'l']
  else refuse .unit

/-- A null, or a value. -/
def nullable {α : Type} (reader : Reader α) : Reader (Option α) := do
  if (← peek) = some 'n' then
    skip 1
    wordTail ['u', 'l', 'l']
    return none
  else return some (← reader)

/-- An integer between two bounds. -/
def integer (wanted : Wanted) (least greatest : Int) : Reader Int := do
  match ← peek with
  | some c =>
    if c = '-' || c.isDigit then
      match ← number with
      | .integer value =>
        if least ≤ value && value ≤ greatest then return value
        else fail (.outOfRange value wanted)
      | .float value => fail (.wrongKind (.float value) wanted)
    else refuse wanted
  | none => refuse wanted

/-- An unsigned integer of 8 bits. -/
def u8 : Reader UInt8 := return UInt8.ofNat (← integer .u8 0 (Int.pow 2 8 - 1)).toNat

/-- An unsigned integer of 32 bits. -/
def u32 : Reader UInt32 := return UInt32.ofNat (← integer .u32 0 (Int.pow 2 32 - 1)).toNat

/-- A signed integer of 64 bits. -/
def i64 : Reader Int64 := return Int64.ofInt (← integer .i64 (-Int.pow 2 63) (Int.pow 2 63 - 1))

end ApiBindings.Document.Reader
