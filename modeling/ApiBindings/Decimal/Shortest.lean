/-!
# Shortest decimals

A binary floating point number is one of many decimals that read back as the same number.  This module
selects the one with the fewest digits, and of several such the closest one.

A finite number is `m · 2 ^ q`.  The reals that round to it form an interval around it, ends included
when `m` is even.  For one digit, then two, and so on, the two neighbours of the number on the grid of
decimals with that many digits are compared with the interval, in exact arithmetic of natural numbers.
Seventeen digits always suffice for 64 bits, so the search ends there with the nearest grid point.
-/

namespace ApiBindings.Decimal

set_option autoImplicit false

/-! ## Binary numbers -/

/-- A positive number `mantissa · 2 ^ exponent`, with what is needed to know its neighbours. -/
structure Binary where
  mantissa : Nat
  exponent : Int
  /-- Whether the next smaller number is only half as far away as the next greater one. -/
  narrowBelow : Bool
  deriving DecidableEq, Repr

/-- The absolute value of a finite 64-bit number, from its bits; `none` for a zero. -/
def Binary.ofBits? (bits : UInt64) : Option Binary :=
  let fraction : Nat := bits.toNat % Nat.pow 2 52
  let biased : Nat := bits.toNat / Nat.pow 2 52 % Nat.pow 2 11
  if biased = 0 then
    if fraction = 0 then none else some ⟨fraction, -1074, false⟩
  else some ⟨Nat.pow 2 52 + fraction, (biased : Int) - 1075, fraction = 0 && 1 < biased⟩

/-! ## Decimals -/

/-- A number `digits · 10 ^ exponent`. -/
structure Scaled where
  digits : Nat
  exponent : Int
  deriving DecidableEq, Repr, Inhabited

/-- The number of decimal digits, one for zero. -/
def digitCount (n : Nat) : Nat := (Nat.toDigits 10 n).length

/-- Moves trailing zeros of the digits into the exponent, `fuel` of them at most. -/
def Scaled.dropZeros : (fuel : Nat) → Scaled → Scaled
  | 0, x => x
  | fuel + 1, x =>
    if x.digits ≠ 0 ∧ x.digits % 10 = 0 then dropZeros fuel ⟨x.digits / 10, x.exponent + 1⟩ else x

/-- The ratio of two numbers as a pair of natural numbers, for `a · 2 ^ p · 10 ^ e`. -/
def ratio (a : Nat) (p e : Int) : Nat × Nat :=
  (a * Nat.pow 2 p.toNat * Nat.pow 10 e.toNat, Nat.pow 2 (-p).toNat * Nat.pow 10 (-e).toNat)

/-- Whether a decimal lies among the reals that round to the binary number. -/
def readsBack (x : Binary) (d : Scaled) : Bool :=
  let unit := x.exponent - 2
  let (num, den) := ratio 1 unit (-d.exponent)
  let below := (4 * x.mantissa - (if x.narrowBelow then 1 else 2)) * num
  let above := (4 * x.mantissa + 2) * num
  let value := d.digits * den
  if x.mantissa % 2 = 0 then below ≤ value && value ≤ above else below < value && value < above

/-- The power of ten just above the number: the least `k` with `x < 10 ^ k`, searched upwards. -/
def magnitude (x : Binary) : Int :=
  let start : Int := -324
  let fits (k : Int) : Bool := let (num, den) := ratio x.mantissa x.exponent (-k); num < den
  start + (((List.range 640).find? fun i : Nat => fits (start + i)).getD 0 : Nat)

/-- The neighbours of the number on the grid of multiples of `10 ^ e`: the closer one first, of two
equally close ones the even one first. -/
def neighbours (x : Binary) (e : Int) : List Scaled :=
  let (num, den) := ratio x.mantissa x.exponent (-e)
  let lower := num / den
  let remainder := num % den
  let pair := [⟨lower, e⟩, ⟨lower + 1, e⟩]
  if 2 * remainder < den || (2 * remainder = den && lower % 2 = 0) then pair else pair.reverse

/-- The shortest decimal that reads back as the number. -/
def shortest (x : Binary) : Scaled :=
  let k := magnitude x
  let candidates := (List.range 17).flatMap fun n => neighbours x (k - (n + 1 : Nat))
  let found := (candidates.find? (readsBack x)).getD (((neighbours x (k - 17)).head?).getD default)
  found.dropZeros (digitCount found.digits)

end ApiBindings.Decimal
