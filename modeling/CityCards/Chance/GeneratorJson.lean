import CityCards.Chance.Generator
import CityCards.Json.Outline
import CityCards.Json.Print
import CityCards.Json.Record

/-!
# Saved generators as JSON

Results:
* `SavedGenerator.ofJson_toJson`: a saved generator is read back.
-/

namespace CityCards.SavedGenerator

/-- The fields of a saved generator. -/
def layout : RecordLayout := ⟨"GameRngState", 3⟩

/-- A saved generator as JSON. -/
def toJson (s : SavedGenerator) : Json :=
  .obj [("seed", .int s.seed.toNat), ("position", .int s.position.toNat),
    ("forks", .int s.forks.toNat)]

/-- A saved generator as JSON text. -/
def text (s : SavedGenerator) : String := s.toJson.text

/-- A saved generator from the parts of a record. -/
def ofRecord (r : Record Json) : Ranked SavedGenerator :=
  SavedGenerator.mk <$> r.field layout 0 ["seed"] none Json.readUInt64
    <*> r.field layout 1 ["position"] none Json.readUInt128
    <*> r.field layout 2 ["forks"] none Json.readUInt64
    <* r.closed layout

/-- A saved generator from JSON. -/
def ofJson (j : Json) : Except ReadError SavedGenerator := Record.read layout ofRecord j

/-- A saved generator in a text. -/
def outline : Json.Outline :=
  .record [
    (["seed"], true, .integer 0 (2 ^ 64 - 1)),
    (["position"], true, .wide (2 ^ 128 - 1)),
    (["forks"], true, .integer 0 (2 ^ 64 - 1))]

theorem ofJson_toJson (s : SavedGenerator) : ofJson s.toJson = .ok s := by
  rw [ofJson, toJson, Record.read_obj_eq_ok_iff]
  simp [ofRecord, Record.field, Record.occurrences, Record.closed, Ranked.ofExcept,
    Json.readUInt64_toNat, Json.readUInt128_toNat]
  rfl

end CityCards.SavedGenerator
