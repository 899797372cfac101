import CityCards.City.State
import CityCards.Effect.Tree

/-!
# Who plays

A resolution leaves two things to others: what basic effects do to the city, and what the player
chooses. Both are done by a handler, which keeps a state of its own and may fail.
-/

namespace CityCards

/-- Model of `EffectHandler`. Who applies basic effects and makes choices. A failure carries its
wording; what has been changed before it stays changed. -/
structure Handler (σ : Type) where
  applyBasic : Basic → GameState → σ → Except String Unit × GameState × σ
  /-- Indices of the options chosen, in the order in which they are to be resolved. -/
  makeChoice : Choice → σ → Except String (List Nat) × σ

/-- What a handler was asked to do, and its answer. -/
inductive Call where
  /-- A basic effect to be applied to a state. -/
  | applied (b : Basic) (before : GameState) (answer : Except String Unit)
  | asked (c : Choice) (answer : Except String (List Nat))

namespace Call

/-- The basic effect, if one was applied. -/
def basic? : Call → Option Basic
  | .applied b _ (.ok _) => some b
  | _ => none

/-- The choice and the selection, if one was made. -/
def selection? : Call → Option (Choice × List Nat)
  | .asked c (.ok is) => some (c, is)
  | _ => none

/-- The deck effect, if one was applied. -/
def deckChange? (c : Call) : Option Basic := c.basic?.filter fun b => b.kind.isDeck

end Call

end CityCards
