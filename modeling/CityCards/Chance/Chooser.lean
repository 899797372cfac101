import CityCards.Chance.Generator
import CityCards.Effect.Tree

/-!
# Choosing at random

How an automated player answers a choice: with a random number of distinct options within the
bounds of the choice, as far as there are options.
-/

namespace CityCards.Choice

/-- The greatest number of options that can be chosen. -/
def upper (c : Choice) : Nat := min c.most.toNat c.options.length

/-- The least number of options to choose. -/
def lower (c : Choice) : Nat := min c.least.toNat c.upper

/-- Model of `choose`. A random selection of distinct options. -/
def choose (c : Choice) : Draw (List Nat) := do
  let count ← Generator.countBetween c.lower c.upper
  pickDistinct c.options.length count

end CityCards.Choice
