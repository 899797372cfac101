import CityCards.Condition.Outcome

/-!
# What a resolution reports

A report counts in words of 32 bits. What becomes of a count that is greater than all of these
depends on how the program was built: either the program stops where the count would be made, or the
count starts again at zero.

Main definitions:
* `Report`: the account of a resolution that has come to its end.
* `Overflow`, `Report.Overflows`: what becomes of counts that are too great, and when they are.
* `ResolveError`: why a resolution has ended early.
-/

namespace CityCards

/-- Model of `Diagnostic`. Something that could not be resolved as it stands. -/
inductive Diagnostic where
  | condition (a : Anomaly)
  | unknownTarget (target : String)
  deriving DecidableEq, Repr

namespace Diagnostic

/-- The wording of a diagnostic. -/
def message : Diagnostic → String
  | .condition a => a.message
  | .unknownTarget target => "unknown for-each target " ++ Text.quoted target

/-- The name of the kind of a diagnostic. -/
def kindName : Diagnostic → String
  | .condition _ => "condition"
  | .unknownTarget _ => "unknown_target"

end Diagnostic

/-- Model of `ResolveReport`. The account of a resolution. -/
structure Report where
  /-- How many basic effects were applied. -/
  basicApplied : UInt32
  /-- How many choices were made. -/
  choicesMade : UInt32
  /-- How many times in all the bodies of repeated effects were to be resolved. -/
  iterations : UInt32
  /-- What was treated as false or as zero, in the order in which it was met. -/
  diagnostics : List Diagnostic
  deriving DecidableEq, Repr

/-- What becomes of a count that is greater than all words. -/
inductive Overflow where
  /-- The program stops, as it does if it was built for development and tests. -/
  | stops
  /-- The count starts again at zero, as it does if the program was built for release. -/
  | wraps
  deriving DecidableEq, Repr

namespace Report

/-- Nothing has been done. -/
def empty : Report := ⟨0, 0, 0, []⟩

/-- Model of `is_clean`. Nothing had to be worked around. -/
def isClean (r : Report) : Bool := r.diagnostics.isEmpty

/-! ## Counting -/

/-- The entry for a basic effect that was applied. -/
def applied : Report := { empty with basicApplied := 1 }

/-- The entry for a choice that was made. -/
def chosen : Report := { empty with choicesMade := 1 }

/-- The entry for a body that is to be resolved `n` times. -/
def repeating (n : UInt32) : Report := { empty with iterations := n }

/-- The first account, continued by the second. -/
def add (a b : Report) : Report where
  basicApplied := a.basicApplied + b.basicApplied
  choicesMade := a.choicesMade + b.choicesMade
  iterations := a.iterations + b.iterations
  diagnostics := a.diagnostics ++ b.diagnostics

/-- The program stops when it continues the first account by the second: in both of them together
something is counted more often than a word can say. -/
def Overflows (o : Overflow) (a b : Report) : Prop :=
  o = .stops ∧ (2 ^ 32 ≤ a.basicApplied.toNat + b.basicApplied.toNat ∨
    2 ^ 32 ≤ a.choicesMade.toNat + b.choicesMade.toNat ∨
    2 ^ 32 ≤ a.iterations.toNat + b.iterations.toNat)

instance (o : Overflow) (a b : Report) : Decidable (a.Overflows o b) :=
  inferInstanceAs (Decidable (_ ∧ _))

@[simp] theorem empty_add (a : Report) : empty.add a = a := by
  simp [add, empty]

@[simp] theorem add_empty (a : Report) : a.add empty = a := by
  simp [add, empty]

theorem add_assoc (a b c : Report) : (a.add b).add c = a.add (b.add c) := by
  simp [add, UInt32.add_assoc]

theorem overflows_comm {o : Overflow} {a b : Report} : a.Overflows o b ↔ b.Overflows o a := by
  simp only [Overflows, Nat.add_comm]

/-- An account that counts nothing can be continued by every other. -/
theorem not_overflows_of_zero {a : Report} (happlied : a.basicApplied = 0)
    (hchosen : a.choicesMade = 0) (hrepeated : a.iterations = 0) (o : Overflow) (b : Report) :
    ¬a.Overflows o b := by
  have h₁ := b.basicApplied.toNat_lt
  have h₂ := b.choicesMade.toNat_lt
  have h₃ := b.iterations.toNat_lt
  simp only [Overflows, happlied, hchosen, hrepeated, UInt32.toNat_zero]
  omega

theorem not_empty_overflows (o : Overflow) (a : Report) : ¬empty.Overflows o a :=
  not_overflows_of_zero rfl rfl rfl o a

/-- It makes no difference which two of three accounts are put together first: the program stops in
one of two places either way, or in neither. -/
theorem overflows_assoc (o : Overflow) (a b c : Report) :
    (a.Overflows o b ∨ (a.add b).Overflows o c) ↔ (b.Overflows o c ∨ a.Overflows o (b.add c)) := by
  have hword (x y z : UInt32) :
      (2 ^ 32 ≤ x.toNat + y.toNat ∨ 2 ^ 32 ≤ (x + y).toNat + z.toNat) ↔
        (2 ^ 32 ≤ y.toNat + z.toNat ∨ 2 ^ 32 ≤ x.toNat + (y + z).toNat) := by
    rw [UInt32.toNat_add, UInt32.toNat_add]
    omega
  have happlied := hword a.basicApplied b.basicApplied c.basicApplied
  have hchosen := hword a.choicesMade b.choicesMade c.choicesMade
  have hrepeated := hword a.iterations b.iterations c.iterations
  cases o with
  | stops =>
    simp only [Overflows, add, true_and]
    grind
  | wraps => simp [Overflows]

end Report

/-- Why a resolution ends early. All but `overflow` are models of the variants of `ResolveError`,
which `resolve` returns. -/
inductive ResolveError where
  /-- An anomaly under strict settings. -/
  | anomaly (d : Diagnostic)
  | choiceOutOfRange (index length : Nat)
  | depthExceeded (limit : UInt32)
  | handler (message : String)
  /-- Something was to be counted beyond all words, and the program has stopped. Then nothing is
  returned. -/
  | overflow
  deriving DecidableEq, Repr

/-- The wording of an error. -/
def ResolveError.message : ResolveError → String
  | .anomaly (.condition a) => "condition could not be evaluated: " ++ a.message
  | .anomaly (.unknownTarget target) => (Diagnostic.unknownTarget target).message
  | .choiceOutOfRange index length =>
    "choice selected option " ++ toString index ++ " but only " ++ toString length ++
      " options exist"
  | .depthExceeded limit => "effect tree exceeds maximum depth " ++ toString limit.toNat
  | .handler message => "effect handler failed: " ++ message
  | .overflow => "attempt to add with overflow"

end CityCards
