import CityCards.Chance.Draw

/-!
# Distinct picks

Three ways to pick distinct numbers below a bound, in the order in which they are picked, and the
rule that takes the cheapest of them.

Main definitions:
* `pickInPlace`: exchanges entries of the list of all numbers.
* `pickGrowing`: lets the bound grow while numbers are put among those picked before.
* `pickRejecting`: draws until a number is new.
* `pickDistinct`: the cheapest of these.
-/

namespace CityCards

/-! ## Three ways to pick -/

/-- Exchanges the entry at each of `count` places, from `i` on, with one that does not stand
before it. -/
def exchangeAhead (len : Nat) : (count i : Nat) → Array Nat → Draw (Array Nat)
  | 0, _, a => pure a
  | count + 1, i, a => do
    let j ← drawRange .single i (len - 1)
    exchangeAhead len count (i + 1) (a.swapIfInBounds i j)

/-- Picks by exchanging entries of the list of all numbers below `len`. -/
def pickInPlace (len amount : Nat) : Draw (List Nat) := do
  let a ← exchangeAhead len amount 0 (Array.range len)
  return a.toList.take amount

/-- Puts `t` at the end of the list if it is new. Otherwise `j` is picked, and stands before `t`. -/
def insertPick (picks : List Nat) (t j : Nat) : List Nat :=
  if t ∈ picks then picks.takeWhile (· ≠ t) ++ j :: picks.dropWhile (· ≠ t) else picks ++ [t]

/-- Puts `t` at the end of the list if it is new, and `j` otherwise. -/
def appendPick (picks : List Nat) (t j : Nat) : List Nat :=
  picks ++ [if t ∈ picks then j else t]

/-- Draws `count` times, with a bound that grows from `j` on, and puts every number drawn among the
picks. -/
def growPicks (put : List Nat → Nat → Nat → List Nat) :
    (count j : Nat) → List Nat → Draw (List Nat)
  | 0, _, picks => pure picks
  | count + 1, j, picks => do
    let t ← drawRange .single 0 j
    growPicks put count (j + 1) (put picks t j)

/-- Exchanges the entry at each place, from `i` down to one, with one that does not stand after
it. -/
def exchangeBehind : (i : Nat) → Array Nat → Draw (Array Nat)
  | 0, a => pure a
  | i + 1, a => do
    let j ← drawRange .single 0 (i + 1)
    exchangeBehind i (a.swapIfInBounds (i + 1) j)

/-- Picks with a growing bound. Few picks are put in order as they are made, many afterwards. -/
def pickGrowing (len amount : Nat) : Draw (List Nat) := do
  if amount < 50 then growPicks insertPick amount (len - amount) []
  else
    let picks ← growPicks appendPick amount (len - amount) []
    let a ← exchangeBehind (amount - 1) picks.toArray
    return a.toList

/-- A number, if it is new. -/
def drawUnpicked (w : Width) (len : Nat) (picks : List Nat) : Draw (Option Nat) := do
  let p ← drawBelow w len
  return if p ∈ picks then none else some p

/-- Draws `count` more new numbers; `picks` are those drawn before, the last one first. -/
def drawAllNew (w : Width) (len : Nat) : (count : Nat) → List Nat → Draw (List Nat)
  | 0, picks => pure picks.reverse
  | count + 1, picks => do
    let p ← untilAccepted (drawUnpicked w len picks)
    drawAllNew w len count (p :: picks)

/-- Picks by drawing until enough numbers are new. -/
def pickRejecting (w : Width) (len amount : Nat) : Draw (List Nat) := drawAllNew w len amount []

/-! ## The cheapest way -/

/-- The number `n / d` as the estimates hold it. -/
def estimate (n d : Nat) : Binary := binary32.div (binary32.ofNat n) (binary32.ofNat d)

/-- Where few numbers are picked: exchanging entries is taken to cost less than letting the bound
grow. -/
def fewInPlace (len amount : Nat) : Bool :=
  let a := binary32.ofNat amount
  let (slope, offset) :=
    if len < 500000 then (binary32.round 16 10, binary32.ofNat 10)
    else (estimate 8 45, estimate 70 9)
  11 < amount &&
    (binary32.ofNat len).less (binary32.mul (binary32.add offset (binary32.mul slope a)) a)

/-- Where many numbers are picked: exchanging entries is taken to cost less than rejecting. -/
def manyInPlace (len amount : Nat) : Bool :=
  let slope := if len < 500000 then binary32.ofNat 270 else estimate 330 9
  (binary32.ofNat len).less (binary32.mul slope (binary32.ofNat amount))

/-- Picks `amount` distinct numbers below `len`, or all of them if there are no more. -/
def pickDistinct (len amount : Nat) : Draw (List Nat) :=
  let amount := min amount len
  if 2 ^ 32 ≤ len then pickRejecting .double len amount
  else if amount < 163 then
    if fewInPlace len amount then pickInPlace len amount else pickGrowing len amount
  else if manyInPlace len amount then pickInPlace len amount
  else pickRejecting .single len amount

end CityCards
