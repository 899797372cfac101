import CityCards.City.State
import CityCards.Condition.Basic
import CityCards.Text.Quoted

/-!
# The outcome of a condition

A condition has a value in every state. Where it cannot be decided as it stands, because it names an
unknown key, lacks an operand, or is left to a game that does not decide it, the outcome also has
the anomaly, and its value is a fallback: a count of an unknown key is taken to be zero, and
everything else is taken to be false.

Results:
* `Condition.check_eq_ok_iff`: a check succeeds exactly where the outcome is no fallback.
-/

namespace CityCards

/-- The operands of a condition. -/
inductive OperandField where
  | value
  | compareWith
  deriving DecidableEq, Repr

/-- The name of an operand. -/
def OperandField.name : OperandField → String
  | .value => "value"
  | .compareWith => "compareWith"

/-- Model of `ConditionError`. Why a condition cannot be decided as it stands. -/
inductive Anomaly where
  | unknownKey (condition : ConditionType) (key : String)
  | missingOperand (condition : ConditionType) (field : OperandField)
  | unhandledCustom (description : String)
  deriving DecidableEq, Repr

/-- The wording of an anomaly. -/
def Anomaly.message : Anomaly → String
  | .unknownKey condition key => condition.name ++ ": unknown key " ++ Text.quoted key
  | .missingOperand condition field =>
    condition.name ++ ": missing or ill-typed `" ++ field.name ++ "`"
  | .unhandledCustom description =>
    "custom condition has no evaluator: " ++ Text.quoted description

/-- Model of `Evaluation`. The value of a condition, and why it is only a fallback, if it is. -/
structure Outcome where
  value : Bool
  anomaly : Option Anomaly
  deriving DecidableEq, Repr

namespace Outcome

/-- Model of `ok`: a value that is no fallback. -/
def decided (b : Bool) : Outcome := ⟨b, none⟩

/-- Model of `fallback`: a value that is one. -/
def fallback (b : Bool) (a : Anomaly) : Outcome := ⟨b, some a⟩

/-- A decision, where an anomaly makes false. -/
def ofExcept : Except Anomaly Bool → Outcome
  | .ok b => decided b
  | .error a => fallback false a

end Outcome

/-- Model of `CustomConditionEvaluator`. How a game decides the conditions that are left to it. -/
abbrev CustomEvaluator := Condition → GameState → Bool

namespace Condition

/-- Model of `text`. The name that the condition asks about. -/
def textOperand (c : Condition) : Except Anomaly String :=
  match c.text? with
  | some s => .ok s
  | none => .error (.missingOperand c.type .value)

/-- Model of `number`. The number that the condition compares with. -/
def numberOperand (c : Condition) : Except Anomaly Int64 :=
  match c.number? with
  | some n => .ok n
  | none => .error (.missingOperand c.type .value)

/-- Model of `key`. The member of a vocabulary that the condition asks about. -/
def keyOperand {κ : Type} [Vocabulary κ] (c : Condition) : Except Anomaly κ :=
  match c.textOperand with
  | .error a => .error a
  | .ok s => match Vocabulary.parse? s with
    | some k => .ok k
    | none => .error (.unknownKey c.type s)

/-- Model of `counted`. A count compared with the number of the condition. The count of a missing or
unknown key is zero. -/
def countOutcome {κ : Type} [Vocabulary κ] (c : Condition) (count : κ → UInt32) : Outcome :=
  match c.numberOperand with
  | .error a => .fallback false a
  | .ok n =>
    match c.compareWith with
    | none =>
      .fallback (c.comparison.holds 0 n.toInt) (.missingOperand c.type .compareWith)
    | some s => match (Vocabulary.parse? s : Option κ) with
      | some k => .decided (c.comparison.holds (count k).toNat n.toInt)
      | none => .fallback (c.comparison.holds 0 n.toInt) (.unknownKey c.type s)

/-- Model of `outcome`. The outcome of the condition in a state. -/
def outcome (c : Condition) (custom : Option CustomEvaluator) (g : GameState) : Outcome :=
  match c.type with
  | .hasHope => .ofExcept (c.keyOperand.map fun k => 0 < (g.hope k).active)
  | .hasDiscontent => .ofExcept (c.keyOperand.map fun k => 0 < (g.discontent k).active)
  | .hasBuilding => .ofExcept (c.textOperand.map g.hasBuilding)
  | .hasLaw => .ofExcept (c.textOperand.map g.hasLaw)
  | .compareHopeDiscontent =>
    .decided (c.comparison.holds g.totalActiveHope g.totalActiveDiscontent)
  | .hungerLevel =>
    .ofExcept (c.numberOperand.map fun n => c.comparison.holds g.hunger.toInt n.toInt)
  | .stressLevel =>
    .ofExcept (c.numberOperand.map fun n => c.comparison.holds g.stress.toInt n.toInt)
  | .resourceAmount => c.countOutcome g.resource
  | .citizensType => c.countOutcome g.citizensOf
  | .custom => match custom with
    | some decide => .decided (decide c g)
    | none => .fallback false (.unhandledCustom c.description)

/-- Model of `evaluate`. The value of the condition, be it a fallback or not. -/
def evaluate (c : Condition) (custom : Option CustomEvaluator) (g : GameState) : Bool :=
  (c.outcome custom g).value

/-- Model of `check`. The value of the condition, or the anomaly. -/
def check (c : Condition) (custom : Option CustomEvaluator) (g : GameState) :
    Except Anomaly Bool :=
  let o := c.outcome custom g
  match o.anomaly with
  | some a => .error a
  | none => .ok o.value

theorem check_eq_ok_iff {c : Condition} {custom : Option CustomEvaluator} {g : GameState}
    {b : Bool} : c.check custom g = .ok b ↔ c.outcome custom g = .decided b := by
  cases h : c.outcome custom g with
  | mk v a => cases a <;> simp [check, h, Outcome.decided]

end Condition

end CityCards
