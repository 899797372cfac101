import CityCards.City.StateJson
import CityCards.Condition.Basic

/-!
# Conditions as JSON

How a condition is written as JSON and read back. What a condition lacks is left out, and its
members ascend by name.

Results:
* `Operand.ofJson_toJson`: an operand is read back as the kind that it was.
* `Condition.ofJson_toJson`: a condition is read back.
-/

namespace CityCards

namespace Operand

/-- An operand as JSON. -/
def toJson : Operand → Json
  | .number n => levelJson n
  | .text s => .str s

/-- An operand from JSON: an integer of 64 bits, or a string. -/
def ofJson (j : Json) : Except ReadError Operand :=
  match Json.readInt64 j with
  | .ok n => .ok (.number n)
  | .error _ => match Json.readString j with
    | .ok s => .ok (.text s)
    | .error _ =>
      .error (.noShape "data did not match any variant of untagged enum ConditionValue")

/-- An operand in a text. -/
def outline : Json.Outline := .checked fun j => (ofJson j).isOk

end Operand

/-- A member of an object, if there is a value for it. -/
def optionalMember {α : Type} (name : String) (write : α → Json) :
    Option α → List (String × Json)
  | none => []
  | some a => [(name, write a)]

namespace Condition

/-- The fields of a condition. -/
def layout : RecordLayout := ⟨"Condition", 5⟩

/-- The members of a condition. -/
def members (c : Condition) : List (String × Json) :=
  optionalMember "compareWith" .str c.compareWith
    ++ [("description", .str c.description)]
    ++ optionalMember "operator" Vocabulary.write c.operator
    ++ [("type", Vocabulary.write c.type)]
    ++ optionalMember "value" Operand.toJson c.value

/-- A condition as JSON. -/
def toJson (c : Condition) : Json := .obj c.members

/-- A condition from the parts of a record. -/
def ofRecord (r : Record Json) : Ranked Condition :=
  Condition.mk
    <$> r.field layout 0 ["type"] none Vocabulary.read
    <*> r.field layout 1 ["operator"] (some none) (Json.readOption Vocabulary.read)
    <*> r.field layout 2 ["value"] (some none) (Json.readOption Operand.ofJson)
    <*> r.field layout 3 ["compareWith"] (some none) (Json.readOption Json.readString)
    <*> r.field layout 4 ["description"] none Json.readString
    <* r.closed layout

/-- A condition from JSON. -/
def ofJson (j : Json) : Except ReadError Condition := Record.read layout ofRecord j

/-- A condition in a text. -/
def outline : Json.Outline :=
  .record [
    (["type"], true, .name (Vocabulary.names ConditionType)),
    (["operator"], false, .optional (.name (Vocabulary.names Comparison))),
    (["value"], false, .optional Operand.outline),
    (["compareWith"], false, .optional .text),
    (["description"], true, .text)]

end Condition

theorem Operand.ofJson_toJson (a : Operand) : ofJson a.toJson = .ok a := by
  cases a with
  | number n => simp [ofJson, toJson, readInt64_levelJson]
  | text s =>
    simp [ofJson, toJson, Json.readInt64, Json.readInteger, Json.readString, Except.map]

/-! ## Reading back -/

theorem Json.readOption_write {α : Type} {read : Json → Except ReadError α} {write : α → Json}
    {a : α} (hw : write a ≠ .null) (hr : read (write a) = .ok a) :
    Json.readOption read (write a) = .ok (some a) := by
  unfold Json.readOption
  split
  · rename_i h
    exact absurd h hw
  · rw [hr]
    rfl

theorem Operand.readOption_toJson (a : Operand) :
    Json.readOption ofJson a.toJson = .ok (some a) :=
  Json.readOption_write (by cases a <;> simp [toJson, levelJson]) a.ofJson_toJson

theorem Vocabulary.readOption_write {κ : Type} [Vocabulary κ] (k : κ) :
    Json.readOption Vocabulary.read (Vocabulary.write k) = .ok (some k) :=
  Json.readOption_write (by simp [Vocabulary.write]) (Vocabulary.read_write k)

theorem Json.readOption_str (s : String) :
    Json.readOption Json.readString (.str s) = .ok (some s) := rfl

theorem Condition.ofJson_toJson (c : Condition) : ofJson c.toJson = .ok c := by
  obtain ⟨t, o, v, w, d⟩ := c
  rw [ofJson, toJson, Record.read_obj_eq_ok_iff]
  cases o <;> cases v <;> cases w <;>
    simp [ofRecord, members, optionalMember, Record.field, Record.occurrences, Record.closed,
      Ranked.ofExcept, Vocabulary.read_write, Vocabulary.readOption_write,
      Operand.readOption_toJson, Json.readOption_str, Json.readString] <;> rfl

end CityCards
