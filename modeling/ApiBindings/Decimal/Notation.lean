import ApiBindings.Decimal.Shortest

/-!
# Notation of floating point numbers

How a floating point number is written in a message.  The digits are the shortest ones; the notation
is positional, always with a point, while the exponent of the leading digit lies between -5 and 15, and
scientific with a signed exponent otherwise.
-/

namespace ApiBindings.Decimal

set_option autoImplicit false

/-- The least exponent of a leading digit that is written positionally. -/
def positionalFrom : Int := -5

/-- The greatest exponent of a leading digit that is written positionally. -/
def positionalTo : Int := 15

/-- A run of zeros. -/
def zeros (n : Nat) : List Char := List.replicate n '0'

/-- Positional notation of digits whose first stands for `10 ^ lead`. -/
def positional (digits : List Char) (lead : Int) : List Char :=
  if lead < 0 then '0' :: '.' :: zeros ((-lead).toNat - 1) ++ digits
  else
    let whole := lead.toNat + 1
    if digits.length ≤ whole then digits ++ zeros (whole - digits.length) ++ ['.', '0']
    else digits.take whole ++ '.' :: digits.drop whole

/-- Scientific notation of digits whose first stands for `10 ^ lead`. -/
def scientific (digits : List Char) (lead : Int) : List Char :=
  let fraction := if digits.length ≤ 1 then [] else '.' :: digits.drop 1
  digits.take 1 ++ fraction ++ 'e' :: (if lead < 0 then '-' else '+') :: Nat.toDigits 10 lead.natAbs

/-- The notation of a positive decimal. -/
def Scaled.text (x : Scaled) : List Char :=
  let digits := Nat.toDigits 10 x.digits
  let lead := x.exponent + digits.length - 1
  if positionalFrom ≤ lead && lead ≤ positionalTo then positional digits lead
  else scientific digits lead

/-- The text of a finite 64-bit number, with a minus for a negative zero too. -/
def text (x : Float) : String :=
  let bits := x.toBits
  let sign := if bits.toNat / Nat.pow 2 63 = 1 then ['-'] else []
  let magnitude := match Binary.ofBits? bits with
    | some number => (shortest number).text
    | none => ['0', '.', '0']
  String.ofList (sign ++ magnitude)

end ApiBindings.Decimal
