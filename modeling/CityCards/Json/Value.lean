import CityCards.Decimal.Numeral

/-!
# JSON values

A JSON value is a tree whose objects are lists of members in order. A whole number within 64 bits,
signed or unsigned, is an integer; every other number is kept as the numeral it was written as.

Results:
* `sortedItems_eq_map`: a list is put into normal form item by item.
-/

namespace CityCards

/-- A JSON value. -/
inductive Json where
  | null
  | bool (b : Bool)
  | int (n : Int)
  | decimal (x : Numeral)
  | str (s : String)
  | arr (items : List Json)
  | obj (members : List (String × Json))

namespace Json

/-- The value of the first member with that name. -/
def find? (name : String) : List (String × Json) → Option Json
  | [] => none
  | (k, v) :: rest => if k = name then some v else find? name rest

/-- The member of that name, if the value is an object that has one. -/
def get? (j : Json) (name : String) : Option Json :=
  match j with
  | .obj members => find? name members
  | _ => none

/-- The text, if the value is a string. -/
def asText? : Json → Option String
  | .str s => some s
  | _ => none

/-- The items, if the value is an array. -/
def asItems? : Json → Option (List Json)
  | .arr items => some items
  | _ => none

/-- Puts a member into a list that ascends by name, replacing the member of the same name. -/
def insertMember (name : String) (value : Json) : List (String × Json) → List (String × Json)
  | [] => [(name, value)]
  | (k, v) :: rest =>
    if name < k then (name, value) :: (k, v) :: rest
    else if name = k then (name, value) :: rest
    else (k, v) :: insertMember name value rest

mutual

/-- The normal form of a value: the members of every object ascend by name, and of several members
with one name the last is kept. -/
def sorted : Json → Json
  | .arr items => .arr (sortedItems items)
  | .obj members => .obj (sortedMembers members [])
  | j => j

/-- The items in normal form. -/
def sortedItems : List Json → List Json
  | [] => []
  | j :: rest => j.sorted :: sortedItems rest

/-- Inserts the members in normal form, one after the other, into a list that ascends by name. -/
def sortedMembers : List (String × Json) → List (String × Json) → List (String × Json)
  | [], done => done
  | (k, v) :: rest, done => sortedMembers rest (insertMember k v.sorted done)

end

theorem sortedItems_eq_map (items : List Json) : sortedItems items = items.map sorted := by
  induction items with
  | nil => simp [sortedItems]
  | cons j rest ih => simp [sortedItems, ih]

end Json

end CityCards
