import CityCards.Decimal.Shortest
import CityCards.Json.Value
import CityCards.Text.Quoted

/-!
# Why a value cannot be read

The faults that a JSON value can have when it is read as something else, each with what was found
and what was wanted, and their wording.

Main definitions:
* `ReadError`: the faults.
* `ReadError.message`: their wording.
-/

namespace CityCards

/-- What was wanted in the place of a value. -/
inductive Wanted where
  | string
  | boolean
  | unit
  | sequence
  | map
  | stringOrMap
  | singleKeyMap
  /-- An integer of the named kind. -/
  | integer (kind : String)
  | record (name : String)
  deriving DecidableEq, Repr

/-- A fault of a value that is read as something else. -/
inductive ReadError where
  | invalidType (found : Json) (wanted : Wanted)
  | invalidValue (found : Json) (wanted : Wanted)
  | unknownName (name : String) (known : List String)
  | missingField (name : String)
  | duplicateField (name : String)
  /-- An array ends before the field at this place of a record with that many fields. -/
  | tooShort (place : Nat) (record : String) (size : Nat)
  | tooLong (length : Nat)
  /-- None of the shapes that the value could have fits. -/
  | noShape (wanted : String)

/-- The wording of what was wanted. -/
def Wanted.text : Wanted → String
  | .string => "a string"
  | .boolean => "a boolean"
  | .unit => "unit"
  | .sequence => "a sequence"
  | .map => "a map"
  | .stringOrMap => "string or map"
  | .singleKeyMap => "map with a single key"
  | .integer kind => kind
  | .record name => "struct " ++ name

/-- A value as a message names it. -/
def Json.described : Json → String
  | .null => "null"
  | .bool true => "boolean `true`"
  | .bool false => "boolean `false`"
  | .int n => "integer `" ++ toString n ++ "`"
  | .decimal x => "floating point `" ++ x.text ++ "`"
  | .str s => "string " ++ Text.quoted s
  | .arr _ => "sequence"
  | .obj _ => "map"

/-- Names between backquotes, separated by commas. -/
def nameList (names : List String) : String :=
  ", ".intercalate (names.map fun n => "`" ++ n ++ "`")

/-- The wording of a fault. -/
def ReadError.message : ReadError → String
  | .invalidType found wanted =>
    "invalid type: " ++ found.described ++ ", expected " ++ wanted.text
  | .invalidValue found wanted =>
    "invalid value: " ++ found.described ++ ", expected " ++ wanted.text
  | .unknownName name known =>
    "unknown variant `" ++ name ++ "`, expected one of " ++ nameList known
  | .missingField name => "missing field `" ++ name ++ "`"
  | .duplicateField name => "duplicate field `" ++ name ++ "`"
  | .tooShort place record size =>
    "invalid length " ++ toString place ++ ", expected struct " ++ record ++ " with " ++
      toString size ++ " elements"
  | .tooLong length =>
    "invalid length " ++ toString length ++ ", expected fewer elements in array"
  | .noShape wanted => wanted

end CityCards
