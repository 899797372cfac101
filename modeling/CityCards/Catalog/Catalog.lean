import CityCards.Catalog.Blame
import CityCards.Effect.Violation

/-!
# Catalogs

A catalog holds cards under ids of their own, in the order in which they were registered, and an
index by which a card is found under its id. A catalog that is loaded from a text holds only cards
with sound trees.

Results:
* `Catalog.get?_register`: a card that has been registered is found under its id.
-/

namespace CityCards

/-- Model of `CardCatalog`. Cards in order, and where the card with an id stands among them. What is
looked up is looked up in the index alone. -/
structure Catalog where
  cards : List Card
  /-- Ids with the positions of their cards; of two entries for an id the first one counts. -/
  index : List (String × Nat)

/-- Model of `CatalogError`. Why a catalog cannot be loaded, or a card not be registered. -/
inductive CatalogError where
  /-- The text is no array. -/
  | unreadable (f : Json.Fault)
  /-- A card cannot be read; if its tree is at fault, the path leads to the node that is. -/
  | invalidCard (id : String) (path : Option Json.Path) (error : ReadError)
  | duplicateId (id : String)
  | unsound (id : String) (violations : List Violation)

namespace CatalogError

/-- Model of `first_error`. The first fault, and how many there are besides. -/
def summary : List Violation → String
  | [] => ""
  | [v] => v.text
  | v :: rest => v.text ++ " (and " ++ toString rest.length ++ " more)"

/-- The wording of an error. -/
def message : CatalogError → String
  | .unreadable _ => "catalog parse error"
  | .invalidCard id path error =>
    "card " ++ Text.quoted id ++ " could not be read" ++
      (match path with
        | some p => " at " ++ p.text
        | none => "") ++ ": " ++ error.message
  | .duplicateId id => "duplicate card id " ++ Text.quoted id
  | .unsound id violations =>
    "card " ++ Text.quoted id ++ " has an invalid effect tree: " ++ summary violations

end CatalogError

namespace Catalog

/-- Model of `new`. The catalog without cards. -/
def empty : Catalog := ⟨[], []⟩

/-- The ids of all cards. -/
def ids (c : Catalog) : List String := c.cards.map Card.id

/-- The position that the index has for an id. -/
def position? (c : Catalog) (id : String) : Option Nat := c.index.lookup id

/-- Model of `contains`. The index has an entry for the id. -/
def contains (c : Catalog) (id : String) : Bool := (c.position? id).isSome

/-- Model of `get`. The card at the position that the index has for the id. -/
def get? (c : Catalog) (id : String) : Option Card := (c.position? id).bind fun i => c.cards[i]?

/-- Model of `of_type`. The cards of one deck. -/
def ofType (c : Catalog) (t : CardType) : List Card := c.cards.filter fun card => card.type = t

/-- Model of `register`. Puts a card last, unless its id is taken. Its tree is not looked at. -/
def offer (c : Catalog) (card : Card) : Except CatalogError Unit × Catalog :=
  if c.contains card.id then (.error (.duplicateId card.id), c)
  else (.ok (), { cards := c.cards ++ [card], index := (card.id, c.cards.length) :: c.index })

/-- The catalog with one more card, unless its id is taken. -/
def register (c : Catalog) (card : Card) : Except CatalogError Catalog :=
  (c.offer card).1.map fun _ => (c.offer card).2

/-- Model of `unresolved_card_refs`. The cards that a card adds to the deck and that are missing
from the catalog, each after the card that adds it. -/
def missingRefs (c : Catalog) : List (String × String) :=
  c.cards.flatMap fun card =>
    (card.addedCardIds.filter fun id => !c.contains id).map fun id => (card.id, id)

/-- The first card of the list whose tree is not sound, as an error. -/
def firstUnsound : List Card → Except CatalogError Unit
  | [] => .ok ()
  | card :: rest =>
    match card.tree with
    | none => firstUnsound rest
    | some e => if e.isSound then firstUnsound rest else .error (.unsound card.id e.violations)

/-- Model of `validate_all`. All trees are sound. -/
def validate (c : Catalog) : Except CatalogError Unit := firstUnsound c.cards

/-! ## Loading -/

/-- The id by which a card that cannot be read is reported: its own, or else its number. -/
def reportedId (number : Nat) (j : Json) : String :=
  match (j.get? "id").bind Json.asText? with
  | some id => id
  | none => "#" ++ toString number

/-- Model of `parse_card`. Reads a card. -/
def readCard (number : Nat) (j : Json) : Except CatalogError Card :=
  match Card.ofJson j with
  | .ok card => .ok card
  | .error e => .error (.invalidCard (reportedId number j) (cardBlame? j) e)

/-- Reads and registers cards one after the other, numbered from `number` on. -/
def registerAll (number : Nat) (c : Catalog) : List Json → Except CatalogError Catalog
  | [] => .ok c
  | j :: rest => do
    let card ← readCard number j
    let c ← c.register card
    registerAll (number + 1) c rest

/-- The catalog of the cards that the values are read as, if all of them are sound. -/
def ofItems (items : List Json) : Except CatalogError Catalog := do
  let c ← registerAll 0 empty items
  c.validate
  return c

/-- Model of `from_json_str`. The catalog in a text. -/
def ofText (s : String) : Except CatalogError Catalog :=
  match Json.Outline.readAll (.list .any) s with
  | .ok j => ofItems (((j.asItems?).getD []).map Json.sorted)
  | .error f => .error (.unreadable f)

/-! ## Laws -/

theorem offer_of_contains {c : Catalog} {card : Card} (h : c.contains card.id = true) :
    c.offer card = (.error (.duplicateId card.id), c) := if_pos h

theorem offer_of_not_contains {c : Catalog} {card : Card} (h : c.contains card.id = false) :
    c.offer card = (.ok (), ⟨c.cards ++ [card], (card.id, c.cards.length) :: c.index⟩) :=
  if_neg (by simp [h])

theorem get?_register {c d : Catalog} {card : Card} (h : c.register card = .ok d) :
    d.get? card.id = some card := by
  unfold register at h
  cases hc : c.contains card.id with
  | true =>
    rw [offer_of_contains hc] at h
    cases h
  | false =>
    rw [offer_of_not_contains hc] at h
    cases h
    simp [get?, position?]

end Catalog

end CityCards
