import CityCards.Effect.Tree

/-!
# What becomes of a card

The marks in a tree tell what to do with the card once it has been played. Every node counts, also
in branches that are not taken and options that are not chosen. Removal is stronger than discarding.

Results:
* `Marks.union_assoc`, `Marks.union_none`, `Marks.none_union`: marks can be gathered in any
  grouping.
-/

namespace CityCards

/-- Model of `Disposition`. What to do with a card that has been played. -/
inductive Disposition where
  | remove
  | discard
  | keep
  deriving DecidableEq, Repr

/-- The name of a disposition. -/
def Disposition.name : Disposition → String
  | .remove => "remove"
  | .discard => "discard"
  | .keep => "keep"

instance : Vocabulary Disposition where
  all := [.remove, .discard, .keep]
  name := Disposition.name
  mem_all k := by cases k <;> decide
  names_nodup := by decide

namespace Marks

/-- Model of `bitor`: the marks of either. -/
def union (a b : Marks) : Marks := ⟨a.discard || b.discard, a.remove || b.remove⟩

/-- Model of `disposition`. What the marks ask for. -/
def disposition (m : Marks) : Disposition :=
  if m.remove then .remove else if m.discard then .discard else .keep

theorem union_assoc (a b c : Marks) : (a.union b).union c = a.union (b.union c) := by
  simp [union, Bool.or_assoc]

theorem union_none (a : Marks) : a.union none = a := by simp [union, none]

theorem none_union (a : Marks) : none.union a = a := by simp [union, none]

end Marks

/-- Model of `collect`. The marks of all nodes together. -/
def Effect.allMarks (e : Effect) : Marks := e.walk.foldl (fun m n => m.union n.marks) .none

end CityCards
