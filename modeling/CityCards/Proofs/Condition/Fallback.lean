import CityCards.Condition.Outcome

/-!
# Fallbacks

Whether a condition can be decided as it stands is a matter of its operands, and for custom
conditions of there being a game that decides them. The state of the city has no part in it. So a
condition that cannot be decided has the same fallback in every state: it is taken to be false, but
for a count that cannot be looked up, which is taken to be zero.

Main definitions:
* `Condition.missing?`, `Condition.unknown?`: what is wrong with the operands of a condition.
* `Condition.obstacle`: why a condition cannot be decided, said without a state.
* `Condition.fallback`: what it is taken to be then.

Results:
* `Condition.outcome_meets`: the outcome in any state is the fallback if there is an obstacle, and
  has no anomaly if there is none.
* `Condition.fallback_eq_of_zero`: the fallback of a count is the value that it has where a known
  key counts zero.
* `Condition.anomaly_stateless`: what that means for the outcomes in two states.
-/

namespace CityCards

/-- The outcome is the fallback if there is an obstacle; otherwise it has no anomaly. -/
def Outcome.Meets (o : Outcome) (obstacle : Option Anomaly) (fallback : Bool) : Prop :=
  match obstacle with
  | some a => o = .fallback fallback a
  | none => o.anomaly = none

/-- The name, if it is not in the vocabulary. -/
def Vocabulary.strange? (κ : Type) [Vocabulary κ] (name : Option String) : Option String :=
  name.filter fun s => (Vocabulary.parse? s : Option κ).isNone

namespace Condition

/-- The operand that the type of the condition asks for and that is not there. -/
def missing? (c : Condition) : Option OperandField :=
  match c.type with
  | .hasHope | .hasDiscontent | .hasBuilding | .hasLaw =>
    if c.text?.isSome then none else some .value
  | .hungerLevel | .stressLevel => if c.number?.isSome then none else some .value
  | .resourceAmount | .citizensType =>
    if c.number?.isNone then some .value
    else if c.compareWith.isNone then some .compareWith
    else none
  | .compareHopeDiscontent | .custom => none

/-- The key that the condition names though its vocabulary does not have it. -/
def unknown? (c : Condition) : Option String :=
  match c.type with
  | .hasHope => Vocabulary.strange? HopeKind c.text?
  | .hasDiscontent => Vocabulary.strange? DiscontentKind c.text?
  | .resourceAmount => Vocabulary.strange? ResourceKind c.compareWith
  | .citizensType => Vocabulary.strange? CitizenKind c.compareWith
  | _ => none

/-- Why operands do not do: the one that is missing, or else the key that is unknown. -/
def operandAnomaly (type : ConditionType) (missing : Option OperandField)
    (unknown : Option String) : Option Anomaly :=
  match missing, unknown with
  | some field, _ => some (.missingOperand type field)
  | none, some key => some (.unknownKey type key)
  | none, none => none

/-- Why the condition cannot be decided as it stands, in whatever state, by a game that does or does
not decide custom conditions. -/
def obstacle (c : Condition) (decides : Bool) : Option Anomaly :=
  if c.type = .custom ∧ decides = false then some (.unhandledCustom c.description)
  else operandAnomaly c.type c.missing? c.unknown?

/-- What the condition is taken to be if it cannot be decided. -/
def fallback (c : Condition) : Bool :=
  match c.type with
  | .resourceAmount | .citizensType => c.number?.any fun n => c.comparison.holds 0 n.toInt
  | _ => false

/-! ## Outcomes and obstacles -/

section

variable (c : Condition)

theorem meets_textOperand (f : String → Bool) :
    (Outcome.ofExcept (c.textOperand.map f)).Meets
      (operandAnomaly c.type (if c.text?.isSome then none else some .value) none) false := by
  unfold textOperand
  cases c.text? <;> rfl

theorem meets_numberOperand (f : Int64 → Bool) :
    (Outcome.ofExcept (c.numberOperand.map f)).Meets
      (operandAnomaly c.type (if c.number?.isSome then none else some .value) none) false := by
  unfold numberOperand
  cases c.number? <;> rfl

variable {κ : Type} [Vocabulary κ]

theorem meets_keyOperand (f : κ → Bool) :
    (Outcome.ofExcept (c.keyOperand.map f)).Meets
      (operandAnomaly c.type (if c.text?.isSome then none else some .value)
        (Vocabulary.strange? κ c.text?)) false := by
  unfold keyOperand textOperand
  cases c.text? with
  | none => rfl
  | some s =>
    rw [Vocabulary.strange?, Option.filter_some]
    dsimp only
    cases (Vocabulary.parse? s : Option κ) <;> rfl

theorem meets_countOutcome (count : κ → UInt32) :
    (c.countOutcome count).Meets
      (operandAnomaly c.type
        (if c.number?.isNone then some .value
          else if c.compareWith.isNone then some .compareWith
          else none)
        (Vocabulary.strange? κ c.compareWith))
      (c.number?.any fun n => c.comparison.holds 0 n.toInt) := by
  unfold countOutcome numberOperand
  cases c.number? with
  | none => rfl
  | some n =>
    cases c.compareWith with
    | none => rfl
    | some s =>
      rw [Vocabulary.strange?, Option.filter_some]
      dsimp only
      cases (Vocabulary.parse? s : Option κ) <;> rfl

end

/-- If there is an obstacle then the outcome is the fallback, whatever the state; and if there is
none, then it has no anomaly. -/
theorem outcome_meets (c : Condition) (custom : Option CustomEvaluator) (g : GameState) :
    (c.outcome custom g).Meets (c.obstacle custom.isSome) c.fallback := by
  have hkey {κ : Type} [Vocabulary κ] (f : κ → Bool) := c.meets_keyOperand f
  have htext (f : String → Bool) := c.meets_textOperand f
  have hnumber (f : Int64 → Bool) := c.meets_numberOperand f
  have hcount {κ : Type} [Vocabulary κ] (f : κ → UInt32) := c.meets_countOutcome f
  unfold outcome obstacle missing? unknown? fallback
  cases htype : c.type with
  | custom => cases custom <;> rfl
  | compareHopeDiscontent => rfl
  | hasHope | hasDiscontent =>
    rw [htype] at hkey
    exact hkey _
  | hasBuilding | hasLaw =>
    rw [htype] at htext
    exact htext _
  | hungerLevel | stressLevel =>
    rw [htype] at hnumber
    exact hnumber _
  | resourceAmount | citizensType =>
    rw [htype] at hcount
    exact hcount _

/-- Whether there is an anomaly, and which, is known without the state. -/
theorem anomaly_outcome (c : Condition) (custom : Option CustomEvaluator) (g : GameState) :
    (c.outcome custom g).anomaly = c.obstacle custom.isSome := by
  have hmeets := c.outcome_meets custom g
  unfold Outcome.Meets at hmeets
  cases hobstacle : c.obstacle custom.isSome with
  | none =>
    rw [hobstacle] at hmeets
    exact hmeets
  | some a =>
    rw [hobstacle] at hmeets
    rw [hmeets]
    rfl

/-- And so is the value, if there is one. -/
theorem value_of_anomaly {c : Condition} {custom : Option CustomEvaluator} {g : GameState}
    {a : Anomaly} (ha : (c.outcome custom g).anomaly = some a) :
    (c.outcome custom g).value = c.fallback := by
  have hmeets := c.outcome_meets custom g
  rw [← anomaly_outcome, ha] at hmeets
  have heq : c.outcome custom g = .fallback c.fallback a := hmeets
  rw [heq]
  rfl

/-- An operand that is missing stands in the way of every decision. -/
theorem anomaly_of_missing {c : Condition} {field : OperandField} (h : c.missing? = some field)
    (custom : Option CustomEvaluator) (g : GameState) :
    (c.outcome custom g).anomaly = some (.missingOperand c.type field) := by
  have htype : c.type ≠ .custom := by
    intro htype
    unfold missing? at h
    rw [htype] at h
    cases h
  have hnot : ¬(c.type = .custom ∧ custom.isSome = false) := fun hboth => htype hboth.1
  rw [anomaly_outcome, obstacle, if_neg hnot, h]
  rfl

/-! ## Counts that cannot be looked up -/

/-- The condition asked about another key. -/
def about (c : Condition) (key : String) : Condition := { c with compareWith := some key }

section

variable {c : Condition} {κ : Type} [Vocabulary κ] {n : Int64}

/-- A count without a known key is compared as zero, and there is an anomaly. -/
theorem countOutcome_of_strange (hn : c.number? = some n)
    (hkey : ∀ k : κ, c.compareWith ≠ some (Vocabulary.name k)) (count : κ → UInt32) :
    ∃ a, c.countOutcome count = .fallback (c.comparison.holds 0 n.toInt) a := by
  unfold countOutcome numberOperand
  rw [hn]
  dsimp only
  cases hname : c.compareWith with
  | none => exact ⟨_, rfl⟩
  | some s =>
    have hunknown : (Vocabulary.parse? s : Option κ) = none := by
      rw [Option.eq_none_iff_forall_ne_some]
      intro k hk
      rw [Vocabulary.parse?_eq_some_iff] at hk
      exact hkey k (hname.trans (congrArg some hk.symm))
    dsimp only
    rw [hunknown]
    exact ⟨_, rfl⟩

/-- A count with a known key is compared as it is. -/
theorem countOutcome_of_known (hn : c.number? = some n) {k : κ}
    (hkey : c.compareWith = some (Vocabulary.name k)) (count : κ → UInt32) :
    c.countOutcome count = .decided (c.comparison.holds (count k).toNat n.toInt) := by
  rw [countOutcome, numberOperand, hn, hkey]
  dsimp only
  rw [Vocabulary.parse?_name]

/-- Asked about a known key, the condition compares what it counts. -/
theorem countOutcome_about (hn : c.number? = some n) (k : κ) (count : κ → UInt32) :
    (c.about (Vocabulary.name k)).countOutcome count =
      .decided (c.comparison.holds (count k).toNat n.toInt) := by
  have hnumber : (c.about (Vocabulary.name k)).number? = some n := hn
  exact countOutcome_of_known hnumber rfl count

/-- So the fallback of a count is the value that it has where a known key counts zero. -/
theorem fallback_eq_of_zero (hn : c.number?.isSome = true)
    (hkey : ∀ k : κ, c.compareWith ≠ some (Vocabulary.name k)) (count count' : κ → UInt32) :
    (c.countOutcome count).anomaly.isSome = true ∧ ∀ k, count' k = 0 →
      (c.about (Vocabulary.name k)).countOutcome count' =
        .decided (c.countOutcome count).value := by
  obtain ⟨n, hn⟩ := Option.isSome_iff_exists.mp hn
  obtain ⟨a, ha⟩ := countOutcome_of_strange hn hkey count
  rw [ha]
  refine ⟨rfl, fun k hzero => ?_⟩
  rw [countOutcome_about hn, hzero]
  rfl

end

/-- Apart from counts that are compared with a number, the fallback is false. -/
theorem fallback_eq_false {c : Condition}
    (h : ¬((c.type = .resourceAmount ∨ c.type = .citizensType) ∧ c.number?.isSome = true)) :
    c.fallback = false := by
  unfold fallback
  cases htype : c.type with
  | resourceAmount | citizensType =>
    have hnone : c.number? = none := by simpa [htype] using h
    rw [hnone]
    rfl
  | _ => rfl

theorem outcome_resource {c : Condition} (h : c.type = .resourceAmount)
    (custom : Option CustomEvaluator) (g : GameState) :
    c.outcome custom g = c.countOutcome g.resource := by
  unfold outcome
  rw [h]

theorem outcome_citizens {c : Condition} (h : c.type = .citizensType)
    (custom : Option CustomEvaluator) (g : GameState) :
    c.outcome custom g = c.countOutcome g.citizensOf := by
  unfold outcome
  rw [h]

/-- The state has no part in whether a condition can be decided. What stands in the way in one
state stands in the way in every other, and then the value is the same as well. A count without a
known key has the value that it has for any known key of which there is none. In all other cases
the value is false. -/
theorem anomaly_stateless (c : Condition) {custom custom' : Option CustomEvaluator}
    (hcustom : custom.isSome = custom'.isSome) (g g' : GameState) :
    (c.outcome custom g).anomaly = (c.outcome custom' g').anomaly ∧
    (∀ a, (c.outcome custom g).anomaly = some a →
      (c.outcome custom g).value = (c.outcome custom' g').value) ∧
    (c.type = .resourceAmount → c.number?.isSome = true →
      (∀ k : ResourceKind, c.compareWith ≠ some k.name) →
      (c.outcome custom g).anomaly.isSome = true ∧ ∀ k, g'.resource k = 0 →
        (c.about k.name).outcome custom' g' = .decided (c.outcome custom g).value) ∧
    (c.type = .citizensType → c.number?.isSome = true →
      (∀ k : CitizenKind, c.compareWith ≠ some k.name) →
      (c.outcome custom g).anomaly.isSome = true ∧ ∀ k, g'.citizensOf k = 0 →
        (c.about k.name).outcome custom' g' = .decided (c.outcome custom g).value) ∧
    (∀ a, (c.outcome custom g).anomaly = some a →
      ¬((c.type = .resourceAmount ∨ c.type = .citizensType) ∧ c.number?.isSome = true) →
      (c.outcome custom g).value = false) := by
  have hanomaly : (c.outcome custom g).anomaly = (c.outcome custom' g').anomaly := by
    rw [anomaly_outcome, anomaly_outcome, hcustom]
  refine ⟨hanomaly, fun a ha => ?_, fun htype hn hkey => ?_, fun htype hn hkey => ?_,
    fun a ha hother => ?_⟩
  · rw [value_of_anomaly ha, value_of_anomaly (hanomaly.symm.trans ha)]
  · rw [outcome_resource htype]
    obtain ⟨hsome, hzero⟩ := fallback_eq_of_zero hn hkey g.resource g'.resource
    refine ⟨hsome, fun k hk => ?_⟩
    have habout : (c.about k.name).type = .resourceAmount := htype
    rw [outcome_resource habout]
    exact hzero k hk
  · rw [outcome_citizens htype]
    obtain ⟨hsome, hzero⟩ := fallback_eq_of_zero hn hkey g.citizensOf g'.citizensOf
    refine ⟨hsome, fun k hk => ?_⟩
    have habout : (c.about k.name).type = .citizensType := htype
    rw [outcome_citizens habout]
    exact hzero k hk
  · rw [value_of_anomaly ha]
    exact fallback_eq_false hother

/-- Little of a resource that no one knows. -/
def scarceUnknown : Condition :=
  { plain .resourceAmount "Escasez" with
    operator := some .lessThan, value := some (.number 3), compareWith := some "carbón" }

/-- Of the resource there is taken to be nothing, as there is of wood where there is only coal. -/
theorem anomaly_stateless_scarceUnknown :
    (scarceUnknown.outcome none .empty).anomaly = some (.unknownKey .resourceAmount "carbón") ∧
    (scarceUnknown.outcome none (GameState.empty.setResource .coal 5)).anomaly =
      some (.unknownKey .resourceAmount "carbón") ∧
    (scarceUnknown.about "madera").outcome none (GameState.empty.setResource .coal 5) =
      .decided true := by
  have hstrange (k : ResourceKind) : scarceUnknown.compareWith ≠ some k.name := by
    cases k <;> decide +kernel
  have hempty : (scarceUnknown.outcome none .empty) =
      .fallback true (.unknownKey .resourceAmount "carbón") := by decide +kernel
  have hnone : (none : Option CustomEvaluator).isSome = (none : Option CustomEvaluator).isSome :=
    rfl
  obtain ⟨hsame, -, hcount, -, -⟩ :=
    scarceUnknown.anomaly_stateless hnone .empty (GameState.empty.setResource .coal 5)
  rw [hempty] at hsame hcount
  obtain ⟨-, hzero⟩ := hcount rfl rfl hstrange
  exact ⟨by rw [hempty]; rfl, hsame.symm, hzero .wood (by decide +kernel)⟩

end Condition

end CityCards
