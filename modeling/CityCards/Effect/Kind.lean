import CityCards.City.Vocabulary

/-!
# Kinds of basic effects

What a basic effect does when it is applied. The kinds are only names here; the game gives them
meaning. Four of them deal with the deck, and of these the two that bring a card into it have to
say which card.
-/

namespace CityCards

/-- Model of `EffectKind`. What a basic effect does. -/
inductive EffectKind where
  | gainResource
  | loseResource
  | gainCitizen
  | loseCitizen
  | gainSick
  | heal
  | treat
  | dieCitizen
  | reuseWorker
  | exhaustWorker
  | changeHope
  | changeDiscontent
  | activateHope
  | activateDiscontent
  | exhaustHope
  | exhaustDiscontent
  | changeHunger
  | changeStress
  | buildBuilding
  | upgradeBuilding
  | destroyBuilding
  | introduceLaw
  | discardLaw
  | placeTile
  | moveDevelopment
  | workshopEffect
  | flipDisease
  | takeFromMap
  | removeFromMap
  | cardEffect
  | addCardToDeck
  | removeCardFromDeck
  | discardCard
  | shuffleCardIntoDeck
  | custom
  deriving DecidableEq, Repr

namespace EffectKind

/-- The name of a kind. -/
def name : EffectKind → String
  | .gainResource => "gain_resource"
  | .loseResource => "lose_resource"
  | .gainCitizen => "gain_citizen"
  | .loseCitizen => "lose_citizen"
  | .gainSick => "gain_sick"
  | .heal => "heal"
  | .treat => "treat"
  | .dieCitizen => "die_citizen"
  | .reuseWorker => "reuse_worker"
  | .exhaustWorker => "exhaust_worker"
  | .changeHope => "change_hope"
  | .changeDiscontent => "change_discontent"
  | .activateHope => "activate_hope"
  | .activateDiscontent => "activate_discontent"
  | .exhaustHope => "exhaust_hope"
  | .exhaustDiscontent => "exhaust_discontent"
  | .changeHunger => "change_hunger"
  | .changeStress => "change_stress"
  | .buildBuilding => "build_building"
  | .upgradeBuilding => "upgrade_building"
  | .destroyBuilding => "destroy_building"
  | .introduceLaw => "introduce_law"
  | .discardLaw => "discard_law"
  | .placeTile => "place_tile"
  | .moveDevelopment => "move_development"
  | .workshopEffect => "workshop_effect"
  | .flipDisease => "flip_disease"
  | .takeFromMap => "take_from_map"
  | .removeFromMap => "remove_from_map"
  | .cardEffect => "card_effect"
  | .addCardToDeck => "add_card_to_deck"
  | .removeCardFromDeck => "remove_card_from_deck"
  | .discardCard => "discard_card"
  | .shuffleCardIntoDeck => "shuffle_card_into_deck"
  | .custom => "custom"

/-- All kinds. -/
def list : List EffectKind :=
  [.gainResource, .loseResource, .gainCitizen, .loseCitizen, .gainSick, .heal, .treat,
    .dieCitizen, .reuseWorker, .exhaustWorker, .changeHope, .changeDiscontent, .activateHope,
    .activateDiscontent, .exhaustHope, .exhaustDiscontent, .changeHunger, .changeStress,
    .buildBuilding, .upgradeBuilding, .destroyBuilding, .introduceLaw, .discardLaw, .placeTile,
    .moveDevelopment, .workshopEffect, .flipDisease, .takeFromMap, .removeFromMap, .cardEffect,
    .addCardToDeck, .removeCardFromDeck, .discardCard, .shuffleCardIntoDeck, .custom]

instance : Vocabulary EffectKind where
  all := list
  name := name
  mem_all k := by cases k <;> decide
  names_nodup := by decide +kernel

/-- Model of `is_deck_manipulation`. The kind deals with the deck and not with the city. -/
def isDeck : EffectKind → Bool
  | .addCardToDeck | .removeCardFromDeck | .discardCard | .shuffleCardIntoDeck => true
  | _ => false

/-- Model of `requires_card_id`. The kind means nothing unless a card is named. -/
def needsCardId : EffectKind → Bool
  | .addCardToDeck | .shuffleCardIntoDeck => true
  | _ => false

/-- Writes the next letter as a capital, after dropping the underscore before it. -/
def capitalized : Bool → List Char → List Char
  | _, [] => []
  | first, c :: rest =>
    if c = '_' then capitalized true rest
    else (if first then c.toUpper else c) :: capitalized false rest

/-- The name of a kind as a message gives it: each word with a capital, and no underscores. -/
def title (k : EffectKind) : String := String.ofList (capitalized true k.name.toList)

end EffectKind

end CityCards
