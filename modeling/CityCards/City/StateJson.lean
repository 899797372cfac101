import CityCards.City.State
import CityCards.Json.Outline
import CityCards.Json.Record

/-!
# States as JSON

How the state of a city is written as JSON and read back. A ledger is written as an object with
one member for each entry, a set of names as the ascending list of its members, and the members of
every object ascend by name. In a state that is read, whatever is missing is empty or zero.

Results:
* `TokenCount.ofJson_toJson`, `RoundData.ofJson_toJson`: these records are read back.
-/

namespace CityCards

/-- A count as JSON. -/
def countJson (n : UInt32) : Json := .int (n.toNat : Int)

/-- A level as JSON. -/
def levelJson (n : Int64) : Json := .int n.toInt

/-! ## Token counts and round counters -/

namespace TokenCount

/-- The fields of a token count. -/
def layout : RecordLayout := ⟨"TokenCount", 2⟩

/-- Token counts as JSON. -/
def toJson (t : TokenCount) : Json :=
  .obj [("active", countJson t.active), ("exhausted", countJson t.exhausted)]

/-- Token counts from the parts of a record. -/
def ofRecord (r : Record Json) : Ranked TokenCount :=
  TokenCount.mk <$> r.field layout 0 ["active"] none Json.readUInt32
    <*> r.field layout 1 ["exhausted"] none Json.readUInt32 <* r.closed layout

/-- Token counts from JSON. -/
def ofJson (j : Json) : Except ReadError TokenCount := Record.read layout ofRecord j

/-- Token counts in a text. -/
def outline : Json.Outline :=
  .record [(["active"], true, .integer 0 (2 ^ 32 - 1)),
    (["exhausted"], true, .integer 0 (2 ^ 32 - 1))]

end TokenCount

namespace RoundData

/-- The fields of the round counters. -/
def layout : RecordLayout := ⟨"RoundData", 2⟩

/-- Round counters as JSON. -/
def toJson (r : RoundData) : Json :=
  .obj [("ninosUsados", countJson r.childrenUsed),
    ("trabajadoresUsados", countJson r.workersUsed)]

/-- Round counters from the parts of a record. -/
def ofRecord (r : Record Json) : Ranked RoundData :=
  RoundData.mk <$> r.field layout 0 ["ninosUsados"] none Json.readUInt32
    <*> r.field layout 1 ["trabajadoresUsados"] none Json.readUInt32 <* r.closed layout

/-- Round counters from JSON. -/
def ofJson (j : Json) : Except ReadError RoundData := Record.read layout ofRecord j

/-- Round counters in a text. -/
def outline : Json.Outline :=
  .record [(["ninosUsados"], true, .integer 0 (2 ^ 32 - 1)),
    (["trabajadoresUsados"], true, .integer 0 (2 ^ 32 - 1))]

end RoundData

/-! ## Ledgers and sets of names -/

namespace Ledger

variable {κ α : Type} [Vocabulary κ] [DecidableEq κ]

/-- The entries as members, in ascending order of their names. -/
def members (write : α → Json) (l : Ledger κ α) : List (String × Json) :=
  l.entries.foldl (fun ms e => Json.insertMember (Vocabulary.name e.1) (write e.2) ms) []

/-- A ledger as JSON. -/
def toJson (write : α → Json) (l : Ledger κ α) : Json := .obj (l.members write)

/-- Enters the members one after the other into a ledger. -/
def enterMembers (read : Json → Except ReadError α) (l : Ledger κ α) :
    List (String × Json) → Except ReadError (Ledger κ α)
  | [] => .ok l
  | (s, j) :: rest =>
    match Vocabulary.parse? s with
    | none => .error (.unknownName s (Vocabulary.names κ))
    | some k => match read j with
      | .error e => .error e
      | .ok a => enterMembers read (l.set k a) rest

/-- A ledger from JSON. -/
def ofJson (read : Json → Except ReadError α) : Json → Except ReadError (Ledger κ α)
  | .obj ms => enterMembers read empty ms
  | j => .error (.invalidType j .map)

end Ledger

namespace NameSet

/-- A set of names as JSON. -/
def toJson (a : NameSet) : Json := .arr (a.names.map .str)

/-- A set of names from JSON. -/
def ofJson (j : Json) : Except ReadError NameSet := (Json.readList Json.readString j).map ofList

end NameSet

/-! ## States -/

namespace GameState

/-- The fields of a state. -/
def layout : RecordLayout := ⟨"GameState", 9⟩

/-- A state as JSON. -/
def toJson (g : GameState) : Json :=
  .obj [
    ("buildings", g.buildings.toJson),
    ("citizens", g.citizens.toJson countJson),
    ("discontentTokens", g.discontentTokens.toJson TokenCount.toJson),
    ("hopeTokens", g.hopeTokens.toJson TokenCount.toJson),
    ("hunger", levelJson g.hunger),
    ("laws", g.laws.toJson),
    ("resources", g.resources.toJson countJson),
    ("roundData", g.roundData.toJson),
    ("stress", levelJson g.stress)]

/-- A state from the parts of a record. -/
def ofRecord (r : Record Json) : Ranked GameState :=
  GameState.mk
    <$> r.field layout 0 ["hopeTokens"] (some empty.hopeTokens) (Ledger.ofJson TokenCount.ofJson)
    <*> r.field layout 1 ["discontentTokens"] (some empty.discontentTokens)
      (Ledger.ofJson TokenCount.ofJson)
    <*> r.field layout 2 ["resources"] (some empty.resources) (Ledger.ofJson Json.readUInt32)
    <*> r.field layout 3 ["citizens"] (some empty.citizens) (Ledger.ofJson Json.readUInt32)
    <*> r.field layout 4 ["hunger"] (some empty.hunger) Json.readInt64
    <*> r.field layout 5 ["stress"] (some empty.stress) Json.readInt64
    <*> r.field layout 6 ["buildings"] (some empty.buildings) NameSet.ofJson
    <*> r.field layout 7 ["laws"] (some empty.laws) NameSet.ofJson
    <*> r.field layout 8 ["roundData"] (some empty.roundData) RoundData.ofJson
    <* r.closed layout

/-- A state from JSON. -/
def ofJson (j : Json) : Except ReadError GameState := Record.read layout ofRecord j

/-- A state in a text. -/
def outline : Json.Outline :=
  let count : Json.Outline := .integer 0 (2 ^ 32 - 1)
  let level : Json.Outline := .integer (-2 ^ 63) (2 ^ 63 - 1)
  .record [
    (["hopeTokens"], false, .table (Vocabulary.names HopeKind) TokenCount.outline),
    (["discontentTokens"], false, .table (Vocabulary.names DiscontentKind) TokenCount.outline),
    (["resources"], false, .table (Vocabulary.names ResourceKind) count),
    (["citizens"], false, .table (Vocabulary.names CitizenKind) count),
    (["hunger"], false, level),
    (["stress"], false, level),
    (["buildings"], false, .list .text),
    (["laws"], false, .list .text),
    (["roundData"], false, RoundData.outline)]

end GameState

/-! ## Reading back -/

theorem readUInt32_countJson (n : UInt32) : Json.readUInt32 (countJson n) = .ok n :=
  Json.readUInt32_toNat n

theorem readInt64_levelJson (n : Int64) : Json.readInt64 (levelJson n) = .ok n :=
  Json.readInt64_toInt n

theorem TokenCount.ofJson_toJson (t : TokenCount) : ofJson t.toJson = .ok t := by
  rw [ofJson, toJson, Record.read_obj_eq_ok_iff]
  simp [ofRecord, Record.field, Record.occurrences, Record.closed, Ranked.ofExcept,
    readUInt32_countJson]
  rfl

theorem RoundData.ofJson_toJson (r : RoundData) : ofJson r.toJson = .ok r := by
  rw [ofJson, toJson, Record.read_obj_eq_ok_iff]
  simp [ofRecord, Record.field, Record.occurrences, Record.closed, Ranked.ofExcept,
    readUInt32_countJson]
  rfl

end CityCards
