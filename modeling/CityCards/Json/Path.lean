import CityCards.Json.Value

/-!
# Paths into JSON values

A path leads from a value to a part of it, member by member and item by item. Its text is what
messages show: `effects[1].ifTrue`.

Results:
* `at?_append`: a path can be followed in two stretches.
* `Path.tailText_append`: its text is that of both stretches, one after the other.
-/

namespace CityCards.Json

/-- One step down a value. -/
inductive Step where
  | member (name : String)
  | item (i : Nat)
  deriving DecidableEq, Repr

/-- A way down a value. -/
abbrev Path := List Step

/-- The part that a step leads to. -/
def child? (j : Json) : Step → Option Json
  | .member name => j.get? name
  | .item i => j.asItems?.bind fun items => items[i]?

/-- The part that a path leads to. -/
def at? (j : Json) : Path → Option Json
  | [] => some j
  | s :: rest => (j.child? s).bind fun k => k.at? rest

namespace Path

/-- The text of the steps after the first. -/
def tailText : Path → String
  | [] => ""
  | .member name :: rest => "." ++ name ++ tailText rest
  | .item i :: rest => "[" ++ toString i ++ "]" ++ tailText rest

/-- The text of a path: members are separated by points, and indices stand in brackets. -/
def text : Path → String
  | [] => ""
  | .member name :: rest => name ++ tailText rest
  | .item i :: rest => "[" ++ toString i ++ "]" ++ tailText rest

theorem tailText_append (p q : Path) : tailText (p ++ q) = tailText p ++ tailText q := by
  induction p with
  | nil => simp [tailText]
  | cons s rest ih => cases s <;> simp [tailText, ih, String.append_assoc]

end Path

theorem at?_nil (j : Json) : j.at? [] = some j := rfl

theorem at?_member (j : Json) (name : String) (p : Path) :
    j.at? (.member name :: p) = (j.get? name).bind fun v => v.at? p := rfl

theorem at?_obj_member (ms : List (String × Json)) (name : String) (p : Path) :
    (Json.obj ms).at? (.member name :: p) = (find? name ms).bind fun v => v.at? p := rfl

theorem at?_arr_item (items : List Json) (i : Nat) (p : Path) :
    (Json.arr items).at? (.item i :: p) = items[i]?.bind fun v => v.at? p := rfl

theorem at?_append (j : Json) (p q : Path) : j.at? (p ++ q) = (j.at? p).bind fun k => k.at? q := by
  induction p generalizing j with
  | nil => simp [at?]
  | cons s rest ih =>
    simp only [List.cons_append, at?]
    cases j.child? s <;> simp [ih]

end CityCards.Json
