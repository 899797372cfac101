import CityCards.Effect.EffectJson
import CityCards.Effect.Rendering

/-!
# Cards

A card carries what is printed on it, and what it does as an effect tree if it does anything.

Results:
* `Card.ofJson_obj`: a card is read from an object exactly when each of its fields is.
-/

namespace CityCards

/-- Model of `CardType`. The decks that cards belong to. -/
inductive CardType where
  | lawConsequence
  | socialDispute
  | sunset
  deriving DecidableEq, Repr

/-- The name of a deck, which `as_str` gives. -/
def CardType.name : CardType → String
  | .lawConsequence => "consecuencia_ley"
  | .socialDispute => "disputa_social"
  | .sunset => "ocaso"

instance : Vocabulary CardType where
  all := [.lawConsequence, .socialDispute, .sunset]
  name := CardType.name
  mem_all k := by cases k <;> decide
  names_nodup := by decide

/-- Model of `Card`: its id, the deck it belongs to, what is printed on it, and the tree of its
effect. -/
structure Card where
  id : String
  type : CardType
  label : String
  title : String
  flavour : String
  /-- The text of the effect, if one is printed. -/
  printed : String
  tree : Option Effect
  variant : Option String

namespace Card

/-- Model of `new`. A card with nothing but a title on it. -/
def blank (id : String) (type : CardType) (title : String) : Card :=
  { id, type, title, label := "", flavour := "", printed := "", tree := none, variant := none }

/-- Model of `is_disputa_social`. The card settles a dispute. -/
def isDispute (c : Card) : Bool := c.type = .socialDispute

/-- Model of `lifecycle_flags`. All marks in the tree of the card. -/
def marks (c : Card) : Marks :=
  match c.tree with
  | some e => e.allMarks
  | none => .none

/-- Model of `disposition`. What to do with the card once it has been played. -/
def disposition (c : Card) : Disposition := c.marks.disposition

/-- Model of `added_card_ids`. The cards that the card may add to the deck. -/
def addedCardIds (c : Card) : List String :=
  match c.tree with
  | some e => e.addedCardIds
  | none => []

/-- Model of `effect_text`. The text of the effect: what is printed, or else the text of the
tree. -/
def effectText (c : Card) : String :=
  match c.tree with
  | some e => if c.printed = "" then e.render 0 else c.printed
  | none => c.printed

/-! ## JSON -/

/-- The fields of a card. -/
def layout : RecordLayout := ⟨"Card", 8⟩

/-- The names that the tree of a card goes by. -/
def treeNames : List String := ["effectTree", "efectoEstructurado"]

/-- A card as JSON. -/
def toJson (c : Card) : Json :=
  .obj ([("efecto", .str c.printed)] ++ optionalMember "effectTree" Effect.toJson c.tree
    ++ [("etiqueta", .str c.label), ("id", .str c.id), ("textoAmbientacion", .str c.flavour),
      ("titulo", .str c.title), ("type", Vocabulary.write c.type)]
    ++ optionalMember "variante" .str c.variant)

/-- A card from the parts of a record. -/
def ofRecord (r : Record Json) : Ranked Card :=
  Card.mk
    <$> r.field layout 0 ["id"] none Json.readString
    <*> r.field layout 1 ["type"] none Vocabulary.read
    <*> r.field layout 2 ["etiqueta"] (some "") Json.readString
    <*> r.field layout 3 ["titulo"] (some "") Json.readString
    <*> r.field layout 4 ["textoAmbientacion"] (some "") Json.readString
    <*> r.field layout 5 ["efecto"] (some "") Json.readString
    <*> r.field layout 6 treeNames (some none) (Json.readOption Effect.ofJson)
    <*> r.field layout 7 ["variante"] (some none) (Json.readOption Json.readString)
    <* r.closed layout

/-- A card from JSON. -/
def ofJson (j : Json) : Except ReadError Card := Record.read layout ofRecord j

/-- A card in a text. -/
def outline : Json.Outline :=
  .record [
    (["id"], true, .text),
    (["type"], true, .name (Vocabulary.names CardType)),
    (["etiqueta"], false, .text),
    (["titulo"], false, .text),
    (["textoAmbientacion"], false, .text),
    (["efecto"], false, .text),
    (treeNames, false, .optional Effect.outline),
    (["variante"], false, .optional .text)]

theorem ofJson_obj (ms : List (String × Json)) {c : Card} :
    ofJson (.obj ms) = .ok c ↔ ofRecord (.named ms) = .ok c := Record.read_obj_eq_ok_iff

end Card

end CityCards
