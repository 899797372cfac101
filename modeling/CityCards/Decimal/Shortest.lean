import CityCards.Decimal.Numeral

/-!
# Shortest decimal text of a binary number

The fewest decimal digits that still lie nearer to a number than to any other number of the format.
They are written out in positional notation where that is short, and otherwise as one digit before
the point with an exponent that always has a sign.

A number `m · 2 ^ e` owns the interval between the midpoints to its two neighbours, ends included
exactly when `m` is even. For one digit, two, and so on up to seventeen, the two points of the
decimal grid next to the number are tested against that interval; the first grid with a hit wins,
and of two hits the nearer.

Main definitions:
* `Shortest.decimal`: the shortest decimal of a number.
* `Shortest.notate`: its notation.
-/

namespace CityCards

namespace Shortest

/-- `d · 10 ^ p` compared with `k · 2 ^ x`. -/
def compareGrid (d : Nat) (p : Int) (k : Nat) (x : Int) : Ordering :=
  compare (d * 10 ^ p.toNat * 2 ^ (-x).toNat) (k * 2 ^ x.toNat * 10 ^ (-p).toNat)

/-- The decimal `d · 10 ^ p` rounds to the number `b`. -/
def owns (b : Binary) (d : Nat) (p : Int) : Bool :=
  let x := b.exponent - 2
  let low := if b.mantissa = 2 ^ 52 && binary64.minExponent < b.exponent
    then 4 * b.mantissa - 1 else 4 * b.mantissa - 2
  let high := 4 * b.mantissa + 2
  let below := compareGrid d p low x
  let above := compareGrid d p high x
  if b.mantissa % 2 == 0 then below != .lt && above != .gt else below == .gt && above == .lt

/-- The exponent of the leading decimal digit of `num / den`. -/
def leadingPlace (num den : Nat) : Int :=
  if den ≤ num then Int.ofNat (Nat.toDigits 10 (num / den)).length - 1
  else Int.negSucc ((Nat.toDigits 10 ((den + num - 1) / num - 1)).length - 1)

/-- The nearer of the two grid points `d` and `d + 1` to `num / den` in units of `10 ^ p`. -/
def nearer (num den : Nat) (d : Nat) (p : Int) : Nat :=
  let n := 2 * num * 10 ^ (-p).toNat
  let mid := (2 * d + 1) * den * 10 ^ p.toNat
  if n < mid || (n == mid && d % 2 == 0) then d else d + 1

/-- The first grid from `places` digits on that has a point rounding to `b`, with at most `more`
grids tried. -/
def search (b : Binary) (lead : Int) (places : Nat) : Nat → Nat × Int
  | 0 => (0, 0)
  | more + 1 =>
    let p := lead - Int.ofNat places + 1
    let d := b.num * 10 ^ (-p).toNat / (b.den * 10 ^ p.toNat)
    match owns b d p, owns b (d + 1) p with
    | true, true => (nearer b.num b.den d p, p)
    | true, false => (d, p)
    | false, true => (d + 1, p)
    | false, false => search b lead (places + 1) more

/-- The shortest decimal `d · 10 ^ p` that rounds to `b`. -/
def decimal (b : Binary) : Nat × Int :=
  if b.mantissa = 0 then (0, 0) else search b (leadingPlace b.num b.den) 1 17

/-- The digits without trailing zeros. -/
def stripZeros (ds : List Char) : List Char := (ds.reverse.dropWhile (· == '0')).reverse

/-- The same digits, or a zero if there are none. -/
def orZero : List Char → List Char
  | [] => ['0']
  | ds => ds

/-- The exponent of the leading digit of `d · 10 ^ p`. -/
def leadingExponent (d : Nat) (p : Int) : Int :=
  p + Int.ofNat (Nat.toDigits 10 d).length - 1

/-- `d · 10 ^ p` in positional notation with at least one digit after the point. -/
def positional (d : Nat) (p : Int) : List Char :=
  if 0 ≤ p then Nat.toDigits 10 (d * 10 ^ p.toNat) ++ ['.', '0']
  else
    let places := (-p).toNat
    let ds := Nat.toDigits 10 d
    let ds := List.replicate (places + 1 - ds.length) '0' ++ ds
    ds.take (ds.length - places) ++ '.' :: orZero (stripZeros (ds.drop (ds.length - places)))

/-- `d · 10 ^ p` with one digit before the point and an exponent. -/
def scientific (d : Nat) (p : Int) : List Char :=
  let ds := Nat.toDigits 10 d
  let e := leadingExponent d p
  let fraction := stripZeros ds.tail
  ds.take 1 ++ (if fraction.isEmpty then [] else '.' :: fraction) ++
    ['e', if e < 0 then '-' else '+'] ++ Nat.toDigits 10 e.natAbs

/-- The leading exponents of the numbers that are written out in positional notation. -/
structure PlainRange where
  least : Int
  greatest : Int

/-- Numbers from `0.00001` up to sixteen digits before the point are written out. -/
def plainRange : PlainRange := ⟨-5, 15⟩

/-- `d · 10 ^ p` in the notation that its size asks for; zero is written out. -/
def notate (r : PlainRange) (d : Nat) (p : Int) : List Char :=
  let e := leadingExponent d p
  if d = 0 || (r.least ≤ e && e ≤ r.greatest) then positional d p else scientific d p

end Shortest

/-- The shortest text of the number that the numeral stands for; a numeral out of range is shown as
infinite. -/
def Numeral.text (x : Numeral) : String :=
  let digits := match x.value? with
    | none => "inf".toList
    | some b => let (d, p) := Shortest.decimal b; Shortest.notate Shortest.plainRange d p
  String.ofList (if x.negative then '-' :: digits else digits)

end CityCards
