import CityCards.Json.Record

/-!
# Folding JSON values

A fold computes something for every value from the value and from what has been computed for its
parts. Readers of nested values are folds, so each part is read once, however often it is asked for.

Results:
* `Json.fold_eq`: a fold is computed from the folds of the parts.
-/

namespace CityCards.Json

/-- The parts of a value, if it has any. -/
def parts? : Json → Option (Record Json)
  | .arr items => some (.placed items)
  | .obj members => some (.named members)
  | _ => none

mutual

/-- The fold of a value under a function from the value and the folds of its parts. -/
def fold {β : Type} (f : Json → Option (Record β) → β) : Json → β
  | .null => f .null none
  | .bool b => f (.bool b) none
  | .int n => f (.int n) none
  | .decimal x => f (.decimal x) none
  | .str s => f (.str s) none
  | .arr items => f (.arr items) (some (.placed (foldItems f items)))
  | .obj members => f (.obj members) (some (.named (foldMembers f members)))

/-- The folds of the items. -/
def foldItems {β : Type} (f : Json → Option (Record β) → β) : List Json → List β
  | [] => []
  | j :: rest => fold f j :: foldItems f rest

/-- The folds of the members, with their names. -/
def foldMembers {β : Type} (f : Json → Option (Record β) → β) :
    List (String × Json) → List (String × β)
  | [] => []
  | (k, v) :: rest => (k, fold f v) :: foldMembers f rest

end

theorem foldItems_eq {β : Type} (f : Json → Option (Record β) → β) (items : List Json) :
    foldItems f items = items.map (fold f) := by
  induction items with
  | nil => rfl
  | cons j rest ih => simp [foldItems, ih]

theorem foldMembers_eq {β : Type} (f : Json → Option (Record β) → β)
    (members : List (String × Json)) :
    foldMembers f members = members.map fun m => (m.1, fold f m.2) := by
  induction members with
  | nil => rfl
  | cons m rest ih => simp [foldMembers, ih]

theorem fold_eq {β : Type} (f : Json → Option (Record β) → β) (j : Json) :
    fold f j = f j (j.parts?.map (Record.map (fold f))) := by
  cases j <;> simp [fold, parts?, Record.map, foldItems_eq, foldMembers_eq]

end CityCards.Json
