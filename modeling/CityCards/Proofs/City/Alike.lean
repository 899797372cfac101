import CityCards.City.Change
import CityCards.Condition.Outcome
import CityCards.Effect.Tally
import Mathlib.Algebra.GroupWithZero.Nat

/-!
# States that look alike

A state tells a count of zero that has been entered apart from one that has not been entered, but
nothing that looks at single counts does. Nor do the totals, although they are taken over the
entries: an entry of zero adds nothing. So conditions and targets cannot tell states apart in which
all single counts are the same, and changes leave such states alike.

Main definitions:
* `GameState.Alike`: everything that can be looked at is the same in both states.

Results:
* `GameState.totalActiveHope_eq_sum`, `GameState.totalActiveDiscontent_eq_sum`: a total is the sum
  over all kinds, entered or not.
* `GameState.alike_setHope_self` and the like: to enter a count that is there anyway changes nothing
  that can be looked at.
* `GameState.Alike.outcome`, `GameState.Alike.count`: conditions and targets cannot tell such states
  apart.
* `GameState.Alike.applyAll`: changes leave states alike.
-/

namespace CityCards

/-! ## Entries -/

namespace Ledger

variable {κ α : Type} [Vocabulary κ] [DecidableEq κ] {d : α}

theorem getD_get?_set (l : Ledger κ α) (k j : κ) (a : α) :
    ((l.set k a).get? j).getD d = if k = j then a else (l.get? j).getD d := by
  by_cases h : k = j
  · rw [if_pos h, h, get?_set_self, Option.getD_some]
  · rw [if_neg h, get?_set_of_ne l a h]

theorem getD_get?_set_congr {l l' : Ledger κ α}
    (h : ∀ j, (l.get? j).getD d = (l'.get? j).getD d) (k : κ) (a : α) (j : κ) :
    ((l.set k a).get? j).getD d = ((l'.set k a).get? j).getD d := by
  rw [getD_get?_set, getD_get?_set, h]

/-- To enter the value that a member has anyway leaves all values as they are. -/
theorem getD_get?_set_self (l : Ledger κ α) (k j : κ) :
    ((l.set k ((l.get? k).getD d)).get? j).getD d = (l.get? j).getD d := by
  rw [getD_get?_set]
  by_cases h : k = j
  · rw [if_pos h, h]
  · rw [if_neg h]

end Ledger

namespace GameState

/-- The total of a ledger is the sum over all kinds; those without an entry have none. -/
theorem totalActive_eq_sum {κ : Type} [Vocabulary κ] [DecidableEq κ] (l : Ledger κ TokenCount) :
    totalActive l =
      ((Vocabulary.all : List κ).map fun k => ((l.get? k).getD .zero).active.toNat).sum := by
  rw [totalActive, Ledger.entries]
  induction (Vocabulary.all : List κ) with
  | nil => rfl
  | cons k rest ih =>
    rw [List.filterMap_cons, List.map_cons, List.sum_cons, ← ih]
    cases l.get? k with
    | none => exact (Nat.zero_add _).symm
    | some t => rfl

theorem totalActiveHope_eq_sum (g : GameState) :
    g.totalActiveHope =
      ((Vocabulary.all : List HopeKind).map fun k => (g.hope k).active.toNat).sum :=
  totalActive_eq_sum g.hopeTokens

theorem totalActiveDiscontent_eq_sum (g : GameState) :
    g.totalActiveDiscontent =
      ((Vocabulary.all : List DiscontentKind).map fun k => (g.discontent k).active.toNat).sum :=
  totalActive_eq_sum g.discontentTokens

theorem totalActiveHope_eq_add (g : GameState) :
    g.totalActiveHope = (g.hope .justice).active.toNat + (g.hope .care).active.toNat +
      (g.hope .motivation).active.toNat := by
  rw [totalActiveHope_eq_sum]
  simp [Vocabulary.all, Nat.add_assoc]

theorem totalActiveDiscontent_eq_add (g : GameState) :
    g.totalActiveDiscontent = (g.discontent .greed).active.toNat +
      (g.discontent .anger).active.toNat + (g.discontent .apathy).active.toNat := by
  rw [totalActiveDiscontent_eq_sum]
  simp [Vocabulary.all, Nat.add_assoc]

/-! ## What can be looked at -/

/-- Everything that can be looked at is the same in both states; which counts of zero have been
entered is not. -/
structure Alike (g g' : GameState) : Prop where
  hope : ∀ k, g.hope k = g'.hope k
  discontent : ∀ k, g.discontent k = g'.discontent k
  resource : ∀ k, g.resource k = g'.resource k
  citizensOf : ∀ k, g.citizensOf k = g'.citizensOf k
  hunger : g.hunger = g'.hunger
  stress : g.stress = g'.stress
  hasBuilding : ∀ id, g.hasBuilding id = g'.hasBuilding id
  hasLaw : ∀ id, g.hasLaw id = g'.hasLaw id
  roundData : g.roundData = g'.roundData

theorem alike_refl (g : GameState) : g.Alike g where
  hope _ := rfl
  discontent _ := rfl
  resource _ := rfl
  citizensOf _ := rfl
  hunger := rfl
  stress := rfl
  hasBuilding _ := rfl
  hasLaw _ := rfl
  roundData := rfl

theorem Alike.symm {g g' : GameState} (h : g.Alike g') : g'.Alike g where
  hope k := (h.hope k).symm
  discontent k := (h.discontent k).symm
  resource k := (h.resource k).symm
  citizensOf k := (h.citizensOf k).symm
  hunger := h.hunger.symm
  stress := h.stress.symm
  hasBuilding id := (h.hasBuilding id).symm
  hasLaw id := (h.hasLaw id).symm
  roundData := h.roundData.symm

theorem Alike.trans {g g' g'' : GameState} (h : g.Alike g') (h' : g'.Alike g'') : g.Alike g'' where
  hope k := (h.hope k).trans (h'.hope k)
  discontent k := (h.discontent k).trans (h'.discontent k)
  resource k := (h.resource k).trans (h'.resource k)
  citizensOf k := (h.citizensOf k).trans (h'.citizensOf k)
  hunger := h.hunger.trans h'.hunger
  stress := h.stress.trans h'.stress
  hasBuilding id := (h.hasBuilding id).trans (h'.hasBuilding id)
  hasLaw id := (h.hasLaw id).trans (h'.hasLaw id)
  roundData := h.roundData.trans h'.roundData

theorem alike_setHope_self (g : GameState) (k : HopeKind) : (g.setHope k (g.hope k)).Alike g :=
  { alike_refl g with hope := g.hopeTokens.getD_get?_set_self k }

theorem alike_setDiscontent_self (g : GameState) (k : DiscontentKind) :
    (g.setDiscontent k (g.discontent k)).Alike g :=
  { alike_refl g with discontent := g.discontentTokens.getD_get?_set_self k }

theorem alike_setResource_self (g : GameState) (k : ResourceKind) :
    (g.setResource k (g.resource k)).Alike g :=
  { alike_refl g with resource := g.resources.getD_get?_set_self k }

theorem alike_setCitizens_self (g : GameState) (k : CitizenKind) :
    (g.setCitizens k (g.citizensOf k)).Alike g :=
  { alike_refl g with citizensOf := g.citizens.getD_get?_set_self k }

namespace Alike

variable {g g' : GameState}

/-! ## Looking at states that look alike -/

theorem totalActiveHope (h : g.Alike g') : g.totalActiveHope = g'.totalActiveHope := by
  simp only [totalActiveHope_eq_sum, h.hope]

theorem totalActiveDiscontent (h : g.Alike g') :
    g.totalActiveDiscontent = g'.totalActiveDiscontent := by
  simp only [totalActiveDiscontent_eq_sum, h.discontent]

theorem count (h : g.Alike g') (t : Tally) : t.count g = t.count g' := by
  cases t with
  | activeHope k => rw [Tally.count, Tally.count, h.hope]
  | activeDiscontent k => rw [Tally.count, Tally.count, h.discontent]
  | childrenUsed => rw [Tally.count, Tally.count, h.roundData]
  | workersUsed => rw [Tally.count, Tally.count, h.roundData]
  | totalActiveHope => rw [Tally.count, Tally.count, h.totalActiveHope]
  | totalActiveDiscontent => rw [Tally.count, Tally.count, h.totalActiveDiscontent]

end Alike

end GameState

/-- The evaluator decides every condition alike in states that look alike. -/
def CustomEvaluator.RespectsAlike (decide : CustomEvaluator) : Prop :=
  ∀ c g g', g.Alike g' → decide c g = decide c g'

namespace GameState.Alike

variable {g g' : GameState}

theorem outcome (h : g.Alike g') {custom : Option CustomEvaluator}
    (hcustom : ∀ decide ∈ custom, decide.RespectsAlike) (c : Condition) :
    c.outcome custom g = c.outcome custom g' := by
  unfold Condition.outcome
  cases c.type with
  | hasHope => simp only [h.hope]
  | hasDiscontent => simp only [h.discontent]
  | hasBuilding => rw [funext h.hasBuilding]
  | hasLaw => rw [funext h.hasLaw]
  | compareHopeDiscontent => rw [h.totalActiveHope, h.totalActiveDiscontent]
  | hungerLevel => rw [h.hunger]
  | stressLevel => rw [h.stress]
  | resourceAmount => rw [funext h.resource]
  | citizensType => rw [funext h.citizensOf]
  | custom =>
    cases custom with
    | none => rfl
    | some decide => simp only [hcustom decide rfl c g g' h]

/-! ## Changing states that look alike -/

theorem setHope (h : g.Alike g') (k : HopeKind) (t : TokenCount) :
    (g.setHope k t).Alike (g'.setHope k t) :=
  { h with hope := Ledger.getD_get?_set_congr h.hope k t }

theorem updateHope (h : g.Alike g') (k : HopeKind) (f : TokenCount → TokenCount) :
    (g.updateHope k f).Alike (g'.updateHope k f) := by
  rw [GameState.updateHope, GameState.updateHope, h.hope]
  exact h.setHope k _

theorem setDiscontent (h : g.Alike g') (k : DiscontentKind) (t : TokenCount) :
    (g.setDiscontent k t).Alike (g'.setDiscontent k t) :=
  { h with discontent := Ledger.getD_get?_set_congr h.discontent k t }

theorem updateDiscontent (h : g.Alike g') (k : DiscontentKind) (f : TokenCount → TokenCount) :
    (g.updateDiscontent k f).Alike (g'.updateDiscontent k f) := by
  rw [GameState.updateDiscontent, GameState.updateDiscontent, h.discontent]
  exact h.setDiscontent k _

theorem setResource (h : g.Alike g') (k : ResourceKind) (n : UInt32) :
    (g.setResource k n).Alike (g'.setResource k n) :=
  { h with resource := Ledger.getD_get?_set_congr h.resource k n }

theorem modifyResource (h : g.Alike g') (k : ResourceKind) (delta : Int64) :
    (g.modifyResource k delta).Alike (g'.modifyResource k delta) := by
  rw [GameState.modifyResource, GameState.modifyResource, h.resource]
  exact h.setResource k _

theorem setCitizens (h : g.Alike g') (k : CitizenKind) (n : UInt32) :
    (g.setCitizens k n).Alike (g'.setCitizens k n) :=
  { h with citizensOf := Ledger.getD_get?_set_congr h.citizensOf k n }

theorem modifyCitizens (h : g.Alike g') (k : CitizenKind) (delta : Int64) :
    (g.modifyCitizens k delta).Alike (g'.modifyCitizens k delta) := by
  rw [GameState.modifyCitizens, GameState.modifyCitizens, h.citizensOf]
  exact h.setCitizens k _

theorem setHunger (h : g.Alike g') (n : Int64) : (g.setHunger n).Alike (g'.setHunger n) :=
  { h with hunger := rfl }

theorem setStress (h : g.Alike g') (n : Int64) : (g.setStress n).Alike (g'.setStress n) :=
  { h with stress := rfl }

/-- Sets are the same if they have the same members, so they stay the same. -/
theorem mapBuildings (h : g.Alike g') (f : NameSet → NameSet) :
    { g with buildings := f g.buildings }.Alike { g' with buildings := f g'.buildings } := by
  have hsame : g.buildings = g'.buildings := NameSet.ext_contains h.hasBuilding
  exact { h with hasBuilding := fun id => congrArg (fun a => (f a).contains id) hsame }

theorem mapLaws (h : g.Alike g') (f : NameSet → NameSet) :
    { g with laws := f g.laws }.Alike { g' with laws := f g'.laws } := by
  have hsame : g.laws = g'.laws := NameSet.ext_contains h.hasLaw
  exact { h with hasLaw := fun id => congrArg (fun a => (f a).contains id) hsame }

theorem setRound (h : g.Alike g') (r : RoundData) : (g.setRound r).Alike (g'.setRound r) :=
  { h with roundData := rfl }

theorem apply (h : g.Alike g') (c : Change) : (c.apply g).Alike (c.apply g') := by
  cases c with
  | setHope k t => exact h.setHope k t
  | touchHope k => exact h.updateHope k id
  | setHopeActive k n => exact h.updateHope k fun t => { t with active := n }
  | setHopeExhausted k n => exact h.updateHope k fun t => { t with exhausted := n }
  | setDiscontent k t => exact h.setDiscontent k t
  | setDiscontentActive k n => exact h.updateDiscontent k fun t => { t with active := n }
  | setDiscontentExhausted k n => exact h.updateDiscontent k fun t => { t with exhausted := n }
  | setResource k n => exact h.setResource k n
  | modifyResource k delta => exact h.modifyResource k delta
  | setCitizens k n => exact h.setCitizens k n
  | modifyCitizens k delta => exact h.modifyCitizens k delta
  | setHunger n => exact h.setHunger n
  | setStress n => exact h.setStress n
  | addBuilding id => exact h.mapBuildings (NameSet.insert id)
  | removeBuilding id => exact h.mapBuildings (NameSet.erase id)
  | enactLaw id => exact h.mapLaws (NameSet.insert id)
  | repealLaw id => exact h.mapLaws (NameSet.erase id)
  | setRound r => exact h.setRound r
  | resetRound => exact h.setRound ⟨0, 0⟩

theorem applyAll (h : g.Alike g') (cs : List Change) :
    (Change.applyAll cs g).Alike (Change.applyAll cs g') := by
  induction cs generalizing g g' with
  | nil => exact h
  | cons c rest ih => exact ih (h.apply c)

end GameState.Alike

end CityCards
