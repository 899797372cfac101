import CityCards.Decimal.Binary

/-!
# Decimal numerals

A numeral as it is written, digit by digit, and the binary number it stands for.

A numeral is evaluated from its leading digits: as many as fit into 64 bits are kept as one
integer, the places of the others are counted, and the integer is scaled by one power of ten (by
several where the power itself would be out of range). Every step is rounded.
-/

namespace CityCards

/-- A written decimal numeral: sign, digits before and after the point, and exponent. -/
structure Numeral where
  negative : Bool
  whole : List Nat
  fraction : List Nat
  exponent : Int
  deriving DecidableEq, Repr

/-- The number whose decimal digits are given, the most significant first. -/
def ofDecimalDigits (digits : List Nat) : Nat := digits.foldl (fun n d => 10 * n + d) 0

namespace Numeral

/-- The greatest integer of 64 bits. -/
def digitLimit : Nat := 2 ^ 64 - 1

/-- Appends digits to `n` as long as the result stays within 64 bits, and returns it with the
digits that are left. -/
def takeDigits (n : Nat) : List Nat → Nat × List Nat
  | [] => (n, [])
  | d :: ds => if 10 * n + d ≤ digitLimit then takeDigits (10 * n + d) ds else (n, d :: ds)

/-- The digits that count, as one integer, and the power of ten it is to be scaled by. -/
def significand (x : Numeral) : Nat × Int :=
  let (n, dropped) := takeDigits 0 x.whole
  let (n', rest) := takeDigits n x.fraction
  (n', Int.ofNat dropped.length - Int.ofNat (x.fraction.length - rest.length) + x.exponent)

/-- The nearest number to `10 ^ k`. -/
def powerOfTen (k : Nat) : Binary := binary64.ofNat (10 ^ k)

/-- `b · 10 ^ e`, by powers of ten that are themselves in range; `none` if that is too large. Four
steps bring every 64-bit integer down to zero. -/
def scale (b : Binary) (e : Int) : Nat → Option Binary
  | 0 => none
  | steps + 1 =>
    if e.natAbs ≤ 308 then
      if 0 ≤ e then
        let r := binary64.mul b (powerOfTen e.natAbs)
        if binary64.exceeds r then none else some r
      else some (binary64.div b (powerOfTen e.natAbs))
    else if b.mantissa = 0 then some b
    else if 0 ≤ e then none
    else scale (binary64.div b (powerOfTen 308)) (e + 308) steps

/-- The magnitude of the number that the numeral stands for; `none` if it is out of range. -/
def value? (x : Numeral) : Option Binary :=
  let (n, e) := x.significand
  scale (binary64.ofNat n) e 5

end Numeral

end CityCards
