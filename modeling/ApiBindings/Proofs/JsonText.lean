import Mathlib.Data.List.Basic
import ApiBindings.Document.Basic

/-!
# JSON texts

The values of JSON, and every text that each of them may be written as.  `Json.WrittenAs` is the
grammar as a relation, with nothing of a reader in it: a value has as many texts as it has choices of
blanks and of escapes.  An object keeps its members as they stand, in their order and with repeated
keys, because a reader may refuse what a map would hide.  A number keeps its digits, because they are
what decides whether it is an integer; `Json.integer?` is the integer that plain digits mean.
-/

namespace ApiBindings.Document

set_option autoImplicit false

/-! ## Values -/

/-- A JSON value. -/
inductive Json where
  | null
  | boolean (value : Bool)
  /-- The whole part of a number, and its fraction and exponent as one tail. -/
  | number (negative : Bool) (whole tail : List Char)
  | text (value : String)
  | array (items : List Json)
  | object (members : List (String × Json))

/-- The number that decimal digits mean. -/
def decimal (digits : List Char) : Nat :=
  digits.foldl (fun value digit => 10 * value + (digit.toNat - '0'.toNat)) 0

/-- The integer that a number without fraction and exponent means.  A minus in front of zero makes a
number that is no integer. -/
def Json.integer? : Json → Option Int
  | number false whole [] => some (decimal whole)
  | number true whole [] => if decimal whole = 0 then none else some (-decimal whole)
  | _ => none

/-! ## Blanks -/

/-- What may stand between two tokens. -/
def Blanks (gap : List Char) : Prop := ∀ c ∈ gap, c ∈ [' ', '\t', '\n', '\r']

instance (gap : List Char) : Decidable (Blanks gap) := List.decidableBAll _ gap

/-! ## Numbers -/

/-- At least one digit, and nothing but digits. -/
def IsDigits (run : List Char) : Prop := run ≠ [] ∧ ∀ c ∈ run, c.isDigit

instance (run : List Char) : Decidable (IsDigits run) :=
  letI : Decidable (∀ c ∈ run, c.isDigit) := List.decidableBAll _ run
  inferInstanceAs (Decidable (_ ∧ _))

/-- The whole part of a number: digits without a zero in front. -/
def IsWhole (whole : List Char) : Prop :=
  IsDigits whole ∧ (whole.head? = some '0' → whole = ['0'])

instance (whole : List Char) : Decidable (IsWhole whole) := inferInstanceAs (Decidable (_ ∧ _))

/-- A fraction may follow a whole part. -/
inductive IsFraction : List Char → Prop where
  | absent : IsFraction []
  | present {run : List Char} : IsDigits run → IsFraction ('.' :: run)

/-- An exponent may follow a whole part and its fraction. -/
inductive IsExponent : List Char → Prop where
  | absent : IsExponent []
  | present {mark : Char} {sign run : List Char} :
      mark ∈ ['e', 'E'] → sign ∈ [[], ['+'], ['-']] → IsDigits run →
      IsExponent (mark :: (sign ++ run))

/-! ## Texts -/

/-- A hexadecimal digit, in either case, and its value. -/
def IsHexDigit (value : Nat) (digit : Char) : Prop :=
  "0123456789abcdef".toList[value]? = some digit ∨ "0123456789ABCDEF".toList[value]? = some digit

/-- A code unit is written as four hexadecimal digits. -/
inductive UnitWrittenAs : Nat → List Char → Prop where
  | digits {w x y z : Nat} {a b c d : Char} :
      IsHexDigit w a → IsHexDigit x b → IsHexDigit y c → IsHexDigit z d →
      UnitWrittenAs (((w * 16 + x) * 16 + y) * 16 + z) [a, b, c, d]

/-- The letters that stand for a character behind a backslash. -/
def shortEscapes : List (Char × Char) :=
  [('"', '"'), ('\\', '\\'), ('/', '/'), ('b', '\x08'), ('f', '\x0c'), ('n', '\n'), ('r', '\r'),
    ('t', '\t')]

/-- A character is written as itself, by a letter, as its code unit or as the two surrogates of its
code point. -/
inductive CharWrittenAs : Char → List Char → Prop where
  | plain {c : Char} : c ≠ '"' → c ≠ '\\' → ' ' ≤ c → CharWrittenAs c [c]
  | letter {letter c : Char} : (letter, c) ∈ shortEscapes → CharWrittenAs c ['\\', letter]
  | unit {c : Char} {digits : List Char} :
      UnitWrittenAs c.toNat digits → CharWrittenAs c ('\\' :: 'u' :: digits)
  | surrogates {c : Char} {leading trailing : Nat} {front back : List Char} :
      0xD800 ≤ leading → leading < 0xDC00 → 0xDC00 ≤ trailing → trailing < 0xE000 →
      c.toNat = 0x10000 + (leading - 0xD800) * 0x400 + (trailing - 0xDC00) →
      UnitWrittenAs leading front → UnitWrittenAs trailing back →
      CharWrittenAs c ('\\' :: 'u' :: (front ++ '\\' :: 'u' :: back))

/-- The characters of a text behind its opening quote, with the closing one. -/
inductive TextWrittenAs : List Char → List Char → Prop where
  | close : TextWrittenAs [] ['"']
  | char {c : Char} {chars front tail : List Char} :
      CharWrittenAs c front → TextWrittenAs chars tail → TextWrittenAs (c :: chars) (front ++ tail)

/-! ## Values as texts -/

/-- What stands in front of an item or a member: a comma unless it is the first one, and blanks. -/
inductive Separator : Bool → List Char → Prop where
  | first {gap : List Char} : Blanks gap → Separator true gap
  | later {gap next : List Char} : Blanks gap → Blanks next → Separator false (gap ++ ',' :: next)

mutual

/-- A value and a text that it may be written as, without blanks around it. -/
inductive Json.WrittenAs : Json → List Char → Prop where
  | null : Json.WrittenAs .null ['n', 'u', 'l', 'l']
  | isTrue : Json.WrittenAs (.boolean true) ['t', 'r', 'u', 'e']
  | isFalse : Json.WrittenAs (.boolean false) ['f', 'a', 'l', 's', 'e']
  | number {negative : Bool} {whole fraction exponent : List Char} :
      IsWhole whole → IsFraction fraction → IsExponent exponent →
      Json.WrittenAs (.number negative whole (fraction ++ exponent))
        ((if negative then ['-'] else []) ++ whole ++ (fraction ++ exponent))
  | text {value : String} {body : List Char} :
      TextWrittenAs value.toList body → Json.WrittenAs (.text value) ('"' :: body)
  | array {items : List Json} {body : List Char} :
      ItemsWrittenAs true items body → Json.WrittenAs (.array items) ('[' :: body)
  | object {members : List (String × Json)} {body : List Char} :
      MembersWrittenAs true members body → Json.WrittenAs (.object members) ('\x7b' :: body)

/-- The items of an array from some item on, with the closing bracket. -/
inductive ItemsWrittenAs : Bool → List Json → List Char → Prop where
  | close {isFirst : Bool} {gap : List Char} :
      Blanks gap → ItemsWrittenAs isFirst [] (gap ++ [']'])
  | item {isFirst : Bool} {item : Json} {items : List Json} {front text tail : List Char} :
      Separator isFirst front → item.WrittenAs text → ItemsWrittenAs false items tail →
      ItemsWrittenAs isFirst (item :: items) (front ++ (text ++ tail))

/-- The members of an object from some member on, with the closing brace. -/
inductive MembersWrittenAs : Bool → List (String × Json) → List Char → Prop where
  | close {isFirst : Bool} {gap : List Char} :
      Blanks gap → MembersWrittenAs isFirst [] (gap ++ ['\x7d'])
  | member {isFirst : Bool} {key : String} {value : Json} {members : List (String × Json)}
      {front keyText gap next text tail : List Char} :
      Separator isFirst front → TextWrittenAs key.toList keyText → Blanks gap → Blanks next →
      value.WrittenAs text → MembersWrittenAs false members tail →
      MembersWrittenAs isFirst ((key, value) :: members)
        (front ++ '"' :: (keyText ++ (gap ++ ':' :: (next ++ (text ++ tail)))))

end

/-- A whole text that stands for a value: one of its texts, with blanks around it. -/
def Json.IsTextOf (json : Json) (source : List Char) : Prop :=
  ∃ before text after, Blanks before ∧ json.WrittenAs text ∧ Blanks after ∧
    source = before ++ (text ++ after)

end ApiBindings.Document
