import CityCards.City.State

/-!
# Changes of a city

The single changes that a city can undergo, as data, and what each makes of a state.

Results:
* `applyAll_append`: changes are made one after the other.
-/

namespace CityCards

/-- A change of a city. -/
inductive Change where
  | setHope (k : HopeKind) (t : TokenCount)
  | touchHope (k : HopeKind)
  | setHopeActive (k : HopeKind) (n : UInt32)
  | setHopeExhausted (k : HopeKind) (n : UInt32)
  | setDiscontent (k : DiscontentKind) (t : TokenCount)
  | setDiscontentActive (k : DiscontentKind) (n : UInt32)
  | setDiscontentExhausted (k : DiscontentKind) (n : UInt32)
  | setResource (k : ResourceKind) (n : UInt32)
  | modifyResource (k : ResourceKind) (delta : Int64)
  | setCitizens (k : CitizenKind) (n : UInt32)
  | modifyCitizens (k : CitizenKind) (delta : Int64)
  | setHunger (n : Int64)
  | setStress (n : Int64)
  | addBuilding (id : String)
  | removeBuilding (id : String)
  | enactLaw (id : String)
  | repealLaw (id : String)
  | setRound (r : RoundData)
  | resetRound
  deriving DecidableEq

namespace Change

/-- The state after the change. -/
def apply (c : Change) (g : GameState) : GameState :=
  match c with
  | .setHope k t => g.setHope k t
  | .touchHope k => g.updateHope k id
  | .setHopeActive k n => g.updateHope k fun t => { t with active := n }
  | .setHopeExhausted k n => g.updateHope k fun t => { t with exhausted := n }
  | .setDiscontent k t => g.setDiscontent k t
  | .setDiscontentActive k n => g.updateDiscontent k fun t => { t with active := n }
  | .setDiscontentExhausted k n => g.updateDiscontent k fun t => { t with exhausted := n }
  | .setResource k n => g.setResource k n
  | .modifyResource k delta => g.modifyResource k delta
  | .setCitizens k n => g.setCitizens k n
  | .modifyCitizens k delta => g.modifyCitizens k delta
  | .setHunger n => g.setHunger n
  | .setStress n => g.setStress n
  | .addBuilding id => g.addBuilding id
  | .removeBuilding id => g.removeBuilding id
  | .enactLaw id => g.enactLaw id
  | .repealLaw id => g.repealLaw id
  | .setRound r => g.setRound r
  | .resetRound => g.resetRound

/-- What the change reports: a removal tells whether there was something to remove. -/
def reports? (c : Change) (g : GameState) : Option Bool :=
  match c with
  | .removeBuilding id => some (g.hasBuilding id)
  | .repealLaw id => some (g.hasLaw id)
  | _ => none

/-- The state after all changes, made in order. -/
def applyAll (cs : List Change) (g : GameState) : GameState := cs.foldl (fun g c => c.apply g) g

theorem applyAll_append (cs ds : List Change) (g : GameState) :
    applyAll (cs ++ ds) g = applyAll ds (applyAll cs g) := by
  simp [applyAll]

end Change

end CityCards
