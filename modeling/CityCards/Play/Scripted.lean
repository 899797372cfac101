import CityCards.Chance.Chooser
import CityCards.City.Change
import CityCards.Condition.Outcome
import CityCards.Play.Handler

/-!
# Playing by a script

A handler that needs no one to play: what basic effects do, which of them fail, and how choices are
answered is laid down beforehand, or left to chance. Custom conditions are decided by simple rules.

Main definitions:
* `Script.handler`: the handler that goes by a script.
* `Decider.evaluator`: the decision of custom conditions by a rule.
-/

namespace CityCards

/-- How choices are answered. -/
inductive Picks where
  /-- With the selections in the list, one after the other, and then with empty ones. -/
  | listed (selections : List (List Nat))
  /-- With all options in order. -/
  | all
  | random (g : Generator)

/-- What happens when basic effects are applied. -/
structure Script where
  /-- The basic effect with this description cannot be applied. -/
  failOn : Option String
  /-- The choice with this description cannot be made. -/
  failChoice : Option String
  /-- The changes of the city that the basic effect with the description makes. -/
  actions : List (String × List Change)

/-- How custom conditions are decided. -/
inductive Decider where
  | always (b : Bool)
  /-- By whether the text occurs in the description. -/
  | describedWith (s : String)
  | stressAbove (n : Int64)

/-- The text occurs in the other. -/
def occursIn (s : List Char) : List Char → Bool
  | [] => s.isEmpty
  | c :: rest => s.isPrefixOf (c :: rest) || occursIn s rest

/-- The decision by the rule. -/
def Decider.evaluator : Decider → CustomEvaluator
  | .always b => fun _ _ => b
  | .describedWith s => fun c _ => occursIn s.toList c.description.toList
  | .stressAbove n => fun _ g => n < g.stress

/-- One more, up to the greatest number. -/
def raised (n : Int64) : Int64 := if n = Int64.maxValue then n else n + 1

/-- The state after a basic effect that changes a level. -/
def EffectKind.raiseLevel (k : EffectKind) (g : GameState) : GameState :=
  match k with
  | .changeHunger => g.setHunger (raised g.hunger)
  | .changeStress => g.setStress (raised g.stress)
  | _ => g

namespace Picks

/-- The answer to a choice, and how the next ones are answered. -/
def answer (c : Choice) : Picks → Except String (List Nat) × Picks
  | .listed [] => (.ok [], .listed [])
  | .listed (is :: rest) => (.ok is, .listed rest)
  | .all => (.ok (List.range c.options.length), .all)
  | .random g => match g.draw c.choose with
    | some (is, g) => (.ok is, .random g)
    | none => (.error "no selection was drawn", .random g)

end Picks

namespace Script

/-- The script without failures and actions. -/
def empty : Script := ⟨none, none, []⟩

/-- Applies a basic effect as the script says. -/
def applyBasic (s : Script) (b : Basic) (g : GameState) (p : Picks) :
    Except String Unit × GameState × Picks :=
  if s.failOn = some b.description then (.error ("cannot apply " ++ b.description), g, p)
  else
    let changes := (s.actions.lookup b.description).getD []
    (.ok (), Change.applyAll changes (b.kind.raiseLevel g), p)

/-- Makes a choice as the script says. -/
def makeChoice (s : Script) (c : Choice) (p : Picks) : Except String (List Nat) × Picks :=
  if s.failChoice = some c.description then (.error ("cannot choose " ++ c.description), p)
  else p.answer c

/-- The handler that goes by the script. -/
def handler (s : Script) : Handler Picks := ⟨s.applyBasic, s.makeChoice⟩

end Script

end CityCards
