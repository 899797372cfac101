import CityCards.Chance.Keystream
import CityCards.Decimal.Binary

/-!
# Drawing numbers

Draws take words from a keystream, one after the other, and make numbers of them that are evenly
spread over a range. A draw that would favour some numbers is rejected and made again. One that is
rejected as often as there are positions in the keystream would be rejected for ever, and has no
result.

Main definitions:
* `Draw`: what is computed from the words that follow a position.
* `untilAccepted`: an attempt, made until it has a result.
* `drawBelow`: a number below a bound.
* `drawRange`: a number between two bounds.
-/

namespace CityCards

/-- Where draws take their words from, and how often one is rejected before it is given up. -/
structure Supply where
  words : Words
  limit : Nat

/-- How often draws may be rejected: as often as there are positions in a keystream. -/
def rejectionLimit : Nat := 2 ^ 68

/-- What is computed from the words that follow a position, and the position after them. -/
abbrev Draw := ReaderT Supply (StateT Position Option)

/-- How many words a draw takes. -/
inductive Width where
  | single
  | double
  deriving DecidableEq, Repr

/-- How many numbers a draw can yield. -/
def Width.span : Width → Nat
  | .single => 2 ^ 32
  | .double => 2 ^ 64

/-- The next word. -/
def drawWord : Draw UInt32 := fun s p => some (s.words p, p + 1)

/-- A number of the given width; of two words the first is the low one. -/
def drawNumber : Width → Draw Nat
  | .single => do
    let w ← drawWord
    return w.toNat
  | .double => do
    let low ← drawWord
    let high ← drawWord
    return low.toNat + 2 ^ 32 * high.toNat

/-- Makes an attempt until it has a result. -/
def retried {α : Type} (attempt : Draw (Option α)) : (tries : Nat) → Draw α
  | 0 => fun _ _ => none
  | tries + 1 => do
    match ← attempt with
    | some a => return a
    | none => retried attempt tries

/-- Makes an attempt until it has a result, but not more often than may be rejected. -/
def untilAccepted {α : Type} (attempt : Draw (Option α)) : Draw α := do
  retried attempt (← read).limit

/-- Multiplies a number by `n` and yields the high part of the product, if the low part is not above
the zone. -/
def drawScaled (w : Width) (n zone : Nat) : Draw (Option Nat) := do
  let v ← drawNumber w
  return if v * n % w.span ≤ zone then some (v * n / w.span) else none

/-- A number below `n`. The zone is as large as it can be for an even spread. -/
def drawBelow (w : Width) (n : Nat) : Draw Nat :=
  untilAccepted (drawScaled w n (w.span - 1 - (w.span - n) % n))

/-- A number between two bounds, which may be as far apart as the width allows. The zone ends at a
multiple of the size of the range by a power of two. -/
def drawRange (w : Width) (low high : Nat) : Draw Nat :=
  let n := high - low + 1
  if n = w.span then drawNumber w
  else do
    let v ← untilAccepted (drawScaled w n (n * (w.span / 2 ^ (n.log2 + 1)) - 1))
    return low + v

end CityCards
