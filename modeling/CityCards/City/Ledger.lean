import CityCards.City.Vocabulary

/-!
# Ledgers

A ledger keeps a value for some of the members of a vocabulary. A member that has been entered
with an empty value is told apart from one that has not been entered.

Results:
* `Ledger.get?_set_self`, `Ledger.get?_set_of_ne`: an entry changes its own member only.
* `Ledger.ext_get?`: a ledger is what can be looked up in it.
-/

namespace CityCards

/-- A value for some of the members of a vocabulary. -/
structure Ledger (κ α : Type) [Vocabulary κ] where
  cells : Vector (Option α) (Vocabulary.size κ)

namespace Ledger

variable {κ α : Type} [Vocabulary κ] [DecidableEq κ]

/-- The ledger without entries. -/
def empty : Ledger κ α := ⟨Vector.replicate _ none⟩

/-- The value entered for a member. -/
def get? (l : Ledger κ α) (k : κ) : Option α := l.cells[(Vocabulary.index k).val]

/-- Enters a value for a member. -/
def set (l : Ledger κ α) (k : κ) (a : α) : Ledger κ α :=
  ⟨l.cells.set (Vocabulary.index k).val (some a) (Vocabulary.index k).isLt⟩

/-- The members that have an entry, with their values, in the order of the vocabulary. -/
def entries (l : Ledger κ α) : List (κ × α) :=
  Vocabulary.all.filterMap fun k => (l.get? k).map fun a => (k, a)

instance [DecidableEq α] : DecidableEq (Ledger κ α) := fun l m =>
  if h : l.cells = m.cells then isTrue (by cases l; cases m; simp_all)
  else isFalse fun e => h (by rw [e])

theorem get?_empty (k : κ) : (empty : Ledger κ α).get? k = none := by
  simp [get?, empty]

theorem get?_set_self (l : Ledger κ α) (k : κ) (a : α) : (l.set k a).get? k = some a := by
  simp [get?, set]

theorem get?_set_of_ne (l : Ledger κ α) {j k : κ} (a : α) (h : k ≠ j) :
    (l.set k a).get? j = l.get? j := by
  have : (Vocabulary.index k).val ≠ (Vocabulary.index j).val := fun e =>
    h (Vocabulary.index_injective (Fin.ext e))
  simp [get?, set, this]

theorem ext_get? {l m : Ledger κ α} (h : ∀ k, l.get? k = m.get? k) : l = m := by
  cases l with
  | mk c =>
    cases m with
    | mk d =>
      congr 1
      apply Vector.ext
      intro i hi
      have := h (Vocabulary.atIndex ⟨i, hi⟩)
      simpa [get?, Vocabulary.index_atIndex] using this

end Ledger

end CityCards
