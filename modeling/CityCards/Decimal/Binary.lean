/-!
# Binary numbers of limited precision

Numbers `mantissa · 2 ^ exponent` as a floating-point format holds them, and the arithmetic that
rounds every exact result to the nearest of them, a tie going to the even mantissa. All
computations are on natural numbers, so a result is a matter of exact division.

Results:
* `BinaryFormat.round_zero`: zero is represented exactly.
-/

namespace CityCards

/-- Powers of numbers are the computed ones, also where monoids are known to have powers. -/
@[default_instance high]
instance (priority := high) powOfNatPow {α : Type} [NatPow α] : Pow α Nat := instPowNat

/-- The number `mantissa · 2 ^ exponent`. -/
structure Binary where
  mantissa : Nat
  exponent : Int
  deriving DecidableEq, Repr

/-- A floating-point format: how many bits a mantissa has, and the least and the greatest exponent
of its last place. -/
structure BinaryFormat where
  precision : Nat
  minExponent : Int
  maxExponent : Int

/-- The format with 24 bits of precision. -/
def binary32 : BinaryFormat := ⟨24, -149, 104⟩

/-- The format with 53 bits of precision. -/
def binary64 : BinaryFormat := ⟨53, -1074, 971⟩

namespace Binary

/-- The numerator of the number as a fraction. -/
def num (b : Binary) : Nat := b.mantissa * 2 ^ b.exponent.toNat

/-- The denominator of the number as a fraction. -/
def den (b : Binary) : Nat := 2 ^ (-b.exponent).toNat

/-- `a` is less than `b`. -/
def less (a b : Binary) : Bool := a.num * b.den < b.num * a.den

end Binary

namespace BinaryFormat

/-- Quotient, remainder and divisor of `num / den` in units of `2 ^ e`. -/
def scaledDiv (num den : Nat) (e : Int) : Nat × Nat × Nat :=
  let n := num * 2 ^ (-e).toNat
  let d := den * 2 ^ e.toNat
  (n / d, n % d, d)

/-- The exponent at which the quotient `num / den` has exactly `precision` bits, but no less than
the format's least one. -/
def placeOf (f : BinaryFormat) (num den : Nat) : Int :=
  let e : Int := Int.ofNat num.log2 - Int.ofNat den.log2 - (Int.ofNat f.precision - 1)
  let e := if (scaledDiv num den e).1 < 2 ^ (f.precision - 1) then e - 1 else e
  max e f.minExponent

/-- The number nearest to `num / den`, a tie going to the even mantissa. -/
def round (f : BinaryFormat) (num den : Nat) : Binary :=
  if num = 0 then ⟨0, f.minExponent⟩
  else
    let e := f.placeOf num den
    let (q, r, d) := scaledDiv num den e
    let m := if 2 * r > d || (2 * r == d && q % 2 == 1) then q + 1 else q
    if m = 2 ^ f.precision then ⟨2 ^ (f.precision - 1), e + 1⟩ else ⟨m, e⟩

/-- The nearest number to a natural number. -/
def ofNat (f : BinaryFormat) (n : Nat) : Binary := f.round n 1

/-- The rounded sum. -/
def add (f : BinaryFormat) (a b : Binary) : Binary :=
  f.round (a.num * b.den + b.num * a.den) (a.den * b.den)

/-- The rounded product. -/
def mul (f : BinaryFormat) (a b : Binary) : Binary := f.round (a.num * b.num) (a.den * b.den)

/-- The rounded quotient. -/
def div (f : BinaryFormat) (a b : Binary) : Binary := f.round (a.num * b.den) (a.den * b.num)

/-- The number lies above everything that the format holds. -/
def exceeds (f : BinaryFormat) (b : Binary) : Bool := f.maxExponent < b.exponent

theorem round_zero (f : BinaryFormat) (den : Nat) : f.round 0 den = ⟨0, f.minExponent⟩ := rfl

end BinaryFormat

end CityCards
