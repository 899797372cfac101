import CityCards.Chance.Sample

/-!
# Generators

A generator is a place in the keystream of a seed, and it counts the generators that have been
forked off from it. It can be saved at any time and goes on from there.

Results:
* `Generator.ofSaved_saved`: a generator that has been saved goes on as the same.
* `Generator.saved_fork`: forking leaves the place in the keystream as it is.
-/

namespace CityCards

/-- Model of `GameRng`. A place in the keystream of a seed, and the number of generators forked off
so far. -/
structure Generator where
  seed : UInt64
  position : Position
  forks : UInt64
  deriving DecidableEq

/-- Model of `GameRngState`. A saved generator. The position may have been written by hand and may
lie past the end of the keystream. -/
structure SavedGenerator where
  seed : UInt64
  position : BitVec 128
  forks : UInt64
  deriving DecidableEq

/-- The number of a fork times this distance, which is `FORK_STRIDE`, leads from the seed of a
generator to that of the fork. Being odd, it leads to a new seed for every number. -/
def forkDistance : UInt64 := 0x9E3779B97F4A7C15

namespace Generator

/-- Model of `new`. The generator at the start of the keystream of a seed. -/
def ofSeed (seed : UInt64) : Generator := ⟨seed, 0, 0⟩

/-- Model of `fork`. Forks off a generator, and counts it. -/
def fork (g : Generator) : Generator × Generator :=
  let n := g.forks + 1
  (ofSeed (g.seed + n * forkDistance), { g with forks := n })

/-- Draws from the keystream of the generator. -/
def draw {α : Type} (d : Draw α) (g : Generator) : Option (α × Generator) :=
  (d ⟨keystream g.seed, rejectionLimit⟩ g.position).map fun r => (r.1, { g with position := r.2 })

/-- Model of `count_between`. A number between two bounds; the lower bound if the other is not above
it. -/
def countBetween (low high : Nat) : Draw Nat :=
  if high ≤ low then pure low else drawRange .double low high

/-- Model of `state`. The generator as it is saved. -/
def saved (g : Generator) : SavedGenerator := ⟨g.seed, g.position.setWidth 128, g.forks⟩

/-- Model of `from_state`. The generator that goes on where the saved one was; positions wrap around
at the end of the keystream. -/
def ofSaved (s : SavedGenerator) : Generator := ⟨s.seed, s.position.setWidth 68, s.forks⟩

theorem ofSaved_saved (g : Generator) : ofSaved g.saved = g := by
  have h : (g.position.setWidth 128).setWidth 68 = g.position := by
    apply BitVec.eq_of_toNat_eq
    simp only [BitVec.toNat_setWidth]
    have := g.position.isLt
    omega
  simp [ofSaved, saved, h]

theorem saved_fork (g : Generator) :
    g.fork.2.saved = { g.saved with forks := g.forks + 1 } := rfl

end Generator

end CityCards
