import CityCards.City.Kinds

/-!
# Conditions

A condition is a question about the state of a city. Its type decides which of the operator, the
value and the key are looked at:

| type | value | key |
|---|---|---|
| `hasHope`, `hasDiscontent`, `hasBuilding`, `hasLaw` | a name | |
| `compareHopeDiscontent` | | |
| `hungerLevel`, `stressLevel` | a number | |
| `resourceAmount`, `citizensType` | a number | a name |
| `custom` | | |

Results:
* `Comparison.holds_equal`: without an operator, a condition asks for equality.
-/

namespace CityCards

/-- Model of `ConditionType`. The types of conditions. -/
inductive ConditionType where
  | hasHope
  | hasDiscontent
  | hasBuilding
  | hasLaw
  | compareHopeDiscontent
  | hungerLevel
  | stressLevel
  | resourceAmount
  | citizensType
  | custom
  deriving DecidableEq, Repr

/-- The name of a type of conditions, which `as_str` gives. -/
def ConditionType.name : ConditionType → String
  | .hasHope => "has_hope"
  | .hasDiscontent => "has_discontent"
  | .hasBuilding => "has_building"
  | .hasLaw => "has_law"
  | .compareHopeDiscontent => "compare_hope_discontent"
  | .hungerLevel => "hunger_level"
  | .stressLevel => "stress_level"
  | .resourceAmount => "resource_amount"
  | .citizensType => "citizens_type"
  | .custom => "custom"

instance : Vocabulary ConditionType where
  all := [.hasHope, .hasDiscontent, .hasBuilding, .hasLaw, .compareHopeDiscontent, .hungerLevel,
    .stressLevel, .resourceAmount, .citizensType, .custom]
  name := ConditionType.name
  mem_all k := by cases k <;> decide
  names_nodup := by decide

/-- Model of `ComparisonOperator`. The ways to compare two integers. -/
inductive Comparison where
  | equal
  | notEqual
  | greaterThan
  | lessThan
  | greaterOrEqual
  | lessOrEqual
  deriving DecidableEq, Repr

namespace Comparison

/-- The name of a comparison. -/
def name : Comparison → String
  | .equal => "equal"
  | .notEqual => "not_equal"
  | .greaterThan => "greater_than"
  | .lessThan => "less_than"
  | .greaterOrEqual => "greater_or_equal"
  | .lessOrEqual => "less_or_equal"

instance : Vocabulary Comparison where
  all := [.equal, .notEqual, .greaterThan, .lessThan, .greaterOrEqual, .lessOrEqual]
  name := name
  mem_all k := by cases k <;> decide
  names_nodup := by decide

/-- Model of `compare`. The comparison holds between the two integers. -/
def holds (op : Comparison) (a b : Int) : Bool :=
  match op with
  | .equal => a = b
  | .notEqual => a ≠ b
  | .greaterThan => b < a
  | .lessThan => a < b
  | .greaterOrEqual => b ≤ a
  | .lessOrEqual => a ≤ b

theorem holds_equal (a b : Int) : holds .equal a b = true ↔ a = b := by simp [holds]

end Comparison

/-- Model of `ConditionValue`. The value of a condition: a number or a name. -/
inductive Operand where
  | number (n : Int64)
  | text (s : String)
  deriving DecidableEq, Repr

/-- Model of `Condition`. A question about the state of a city. -/
structure Condition where
  type : ConditionType
  operator : Option Comparison
  value : Option Operand
  compareWith : Option String
  description : String
  deriving DecidableEq, Repr

namespace Condition

/-- Model of `operator`. The comparison that the condition makes: equality, unless it names
another. -/
def comparison (c : Condition) : Comparison := c.operator.getD .equal

/-- Model of `as_number`. The value, if it is a number. -/
def number? (c : Condition) : Option Int64 :=
  match c.value with
  | some (.number n) => some n
  | _ => none

/-- Model of `as_text`. The value, if it is a name. -/
def text? (c : Condition) : Option String :=
  match c.value with
  | some (.text s) => some s
  | _ => none

/-! ## Building conditions -/

/-- Model of `new`. A condition with nothing but a description. -/
def plain (type : ConditionType) (description : String) : Condition :=
  ⟨type, none, none, none, description⟩

/-- Model of `has_hope`. There are active hope tokens of the kind. -/
def hasHope (k : HopeKind) (description : String) : Condition :=
  { plain .hasHope description with value := some (.text k.name) }

/-- Model of `has_discontent`. There are active discontent tokens of the kind. -/
def hasDiscontent (k : DiscontentKind) (description : String) : Condition :=
  { plain .hasDiscontent description with value := some (.text k.name) }

/-- Model of `has_building`. The building stands. -/
def hasBuilding (id description : String) : Condition :=
  { plain .hasBuilding description with value := some (.text id) }

/-- Model of `has_law`. The law is in force. -/
def hasLaw (id description : String) : Condition :=
  { plain .hasLaw description with value := some (.text id) }

/-- Model of `hope_vs_discontent`. All active hope compared with all active discontent. -/
def hopeVsDiscontent (op : Comparison) (description : String) : Condition :=
  { plain .compareHopeDiscontent description with operator := some op }

/-- Model of `hunger`. Hunger compared with a number. -/
def hunger (op : Comparison) (n : Int64) (description : String) : Condition :=
  { plain .hungerLevel description with operator := some op, value := some (.number n) }

/-- Model of `stress`. Stress compared with a number. -/
def stress (op : Comparison) (n : Int64) (description : String) : Condition :=
  { plain .stressLevel description with operator := some op, value := some (.number n) }

/-- Model of `resource`. The stock of a resource compared with a number. -/
def resource (k : ResourceKind) (op : Comparison) (n : Int64) (description : String) : Condition :=
  { plain .resourceAmount description with
    operator := some op, value := some (.number n), compareWith := some k.name }

/-- Model of `citizens`. The citizens of a role compared with a number. -/
def citizens (k : CitizenKind) (op : Comparison) (n : Int64) (description : String) : Condition :=
  { plain .citizensType description with
    operator := some op, value := some (.number n), compareWith := some k.name }

/-- Model of `custom`. A condition that the game decides. -/
def custom (description : String) : Condition := plain .custom description

end Condition

end CityCards
