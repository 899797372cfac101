import CityCards.Condition.Outcome
import CityCards.Effect.Violation

/-!
# The faults of a tree are those of its nodes

The faults of a tree are gathered child by child, each seen from one node further up. What comes out
is the list that a walk through the tree would make: for each node its own faults, at its place.

Results:
* `Effect.violations_eq`: the faults of a tree, node by node in the order of the walk.
* `Effect.isSound_iff_nodes`: a tree is sound exactly if none of its nodes has a fault.
* `Condition.hasFitOperands_eq_false_iff`: operands are found unfit exactly if the outcome of the
  condition is that an operand is missing.
-/

namespace CityCards

/-- The same fault in a tree that stands at a place. -/
def Violation.within (p : Place) (v : Violation) : Violation := { v with place := p ++ v.place }

namespace Effect

/-- The faults of a node at its place. -/
def violationsAt (x : Place × Effect) : List Violation := x.2.flaws.map fun f => ⟨x.1, f.1, f.2⟩

theorem map_within_rootViolations (p : Place) (e : Effect) :
    (rootViolations e.flaws).map (Violation.within p) = violationsAt (p, e) := by
  simp [rootViolations, violationsAt, Violation.within]

theorem within_comp_under (p : Place) (s : Segment) :
    Violation.within p ∘ Violation.under s = Violation.within (p ++ [s]) := by
  funext v
  simp [Violation.within, Violation.under]

mutual

theorem map_within_violations (p : Place) (e : Effect) :
    e.violations.map (Violation.within p) = (e.nodesAt p).flatMap violationsAt := by
  cases e with
  | basic b => simp [violations, nodesAt, map_within_rootViolations]
  | conditional c t f m =>
    simp [violations, nodesAt, map_within_rootViolations, within_comp_under,
      map_within_violations _ t, map_within_optionViolations p _ f]
  | multi bs d m =>
    simp [violations, nodesAt, map_within_rootViolations, map_within_branchViolations p 0 bs,
      map_within_optionViolations p _ d]
  | choice d lo hi os m =>
    simp [violations, nodesAt, map_within_rootViolations, map_within_listViolations p .option 0 os]
  | forEach t b d m =>
    simp [violations, nodesAt, map_within_rootViolations, within_comp_under,
      map_within_violations _ b]
  | composite es d m =>
    simp [violations, nodesAt, map_within_rootViolations, map_within_listViolations p .member 0 es]
termination_by structural e

theorem map_within_optionViolations (p : Place) (s : Segment) (o : Option Effect) :
    (optionViolations s o).map (Violation.within p) =
      (optionNodesAt (p ++ [s]) o).flatMap violationsAt := by
  cases o with
  | none => rfl
  | some e =>
    simp [optionViolations, optionNodesAt, within_comp_under, map_within_violations _ e]
termination_by structural o

theorem map_within_listViolations (p : Place) (label : Nat → Segment) (i : Nat)
    (es : List Effect) :
    (listViolations label i es).map (Violation.within p) =
      (listNodesAt p label i es).flatMap violationsAt := by
  cases es with
  | nil => rfl
  | cons e rest =>
    simp [listViolations, listNodesAt, within_comp_under, map_within_violations _ e,
      map_within_listViolations p label (i + 1) rest]
termination_by structural es

theorem map_within_branchViolations (p : Place) (i : Nat) (bs : List (Condition × Effect)) :
    (branchViolations i bs).map (Violation.within p) =
      (branchNodesAt p i bs).flatMap violationsAt := by
  cases bs with
  | nil => rfl
  | cons b rest =>
    obtain ⟨c, e⟩ := b
    simp [branchViolations, branchNodesAt, within_comp_under, map_within_violations _ e,
      map_within_branchViolations p (i + 1) rest]
termination_by structural bs

end

/-- The faults of a tree are the faults of its nodes, in the order of the walk. -/
theorem violations_eq (e : Effect) : e.violations = e.nodes.flatMap violationsAt := by
  have hroot : Violation.within [] = id := rfl
  rw [nodes, ← map_within_violations, hroot, List.map_id]

theorem violationsAt_eq_nil_iff (x : Place × Effect) : violationsAt x = [] ↔ x.2.flaws = [] := by
  simp [violationsAt]

theorem isSound_iff_nodes (e : Effect) : e.isSound = true ↔ ∀ x ∈ e.nodes, x.2.flaws = [] := by
  simp only [isSound, List.isEmpty_iff, violations_eq, List.flatMap_eq_nil_iff,
    violationsAt_eq_nil_iff]

/-! ## Nodes without faults -/

theorem flawIf_eq_nil_iff {b : Bool} {s : Spot} {f : Flaw} : flawIf b s f = [] ↔ b = false := by
  cases b <;> simp [flawIf]

theorem referenceFlaws_eq_nil {e : Effect} (h : e.flaws = []) : e.referenceFlaws = [] :=
  (List.append_eq_nil_iff.mp h).2

theorem cardId_isSome_of_flaws_eq_nil {b : Basic} (h : (basic b).flaws = [])
    (hk : b.kind.needsCardId = true) : b.cardId.isSome = true := by
  have hr := flawIf_eq_nil_iff.mp (referenceFlaws_eq_nil h)
  simpa [hk] using hr

theorem hasFitOperands_of_conditional {c : Condition} {t : Effect} {f : Option Effect} {m : Marks}
    (h : (conditional c t f m).flaws = []) : c.hasFitOperands = true := by
  simpa using flawIf_eq_nil_iff.mp (referenceFlaws_eq_nil h)

theorem hasFitOperands_of_multi {bs : List (Condition × Effect)} {d : Option Effect} {m : Marks}
    (h : (multi bs d m).flaws = []) : ∀ b ∈ bs, b.1.hasFitOperands = true := by
  intro b hb
  have hr := List.flatten_eq_nil_iff.mp (referenceFlaws_eq_nil h)
  obtain ⟨i, hi, rfl⟩ := List.getElem_of_mem hb
  simpa using flawIf_eq_nil_iff.mp (hr _ (List.mem_mapIdx.mpr ⟨i, hi, rfl⟩))

/-- A target is either blank, which is a fault of the shape, or it has to be known. -/
theorem parse?_isSome_of_forEach {t : String} {b : Effect} {d : String} {m : Marks}
    (h : (forEach t b d m).flaws = []) : (Tally.parse? t).isSome = true := by
  have hblank : Text.isBlankText t = false :=
    flawIf_eq_nil_iff.mp (List.append_eq_nil_iff.mp h).1
  have hknown := flawIf_eq_nil_iff.mp (referenceFlaws_eq_nil h)
  simpa [hblank, Option.isSome_iff_ne_none] using hknown

end Effect

/-! ## Conditions with unfit operands -/

theorem Outcome.anomaly_ofExcept_map {α : Type} (x : Except Anomaly α) (f : α → Bool)
    (a : Anomaly) : (ofExcept (x.map f)).anomaly = some a ↔ x = .error a := by
  cases x <;> simp [ofExcept, Except.map, decided, fallback]

namespace Condition

theorem textOperand_missing_iff (c : Condition) :
    (∃ t f, c.textOperand = .error (.missingOperand t f)) ↔ c.text?.isSome = false := by
  unfold textOperand
  cases c.text? <;> simp

theorem numberOperand_missing_iff (c : Condition) :
    (∃ t f, c.numberOperand = .error (.missingOperand t f)) ↔ c.number?.isSome = false := by
  unfold numberOperand
  cases c.number? <;> simp

theorem keyOperand_missing_iff {κ : Type} [Vocabulary κ] (c : Condition) :
    (∃ t f, (c.keyOperand : Except Anomaly κ) = .error (.missingOperand t f)) ↔
      c.text?.isSome = false := by
  unfold keyOperand textOperand
  cases c.text? with
  | none => simp
  | some s => cases h : (Vocabulary.parse? s : Option κ) <;> simp [h]

theorem countOutcome_missing_iff {κ : Type} [Vocabulary κ] (c : Condition) (count : κ → UInt32) :
    (∃ t f, (c.countOutcome count).anomaly = some (.missingOperand t f)) ↔
      (c.number?.isSome && c.compareWith.isSome) = false := by
  unfold countOutcome numberOperand
  cases c.number? with
  | none => simp [Outcome.fallback]
  | some n =>
    cases c.compareWith with
    | none => simp [Outcome.fallback]
    | some s =>
      cases h : (Vocabulary.parse? s : Option κ) <;> simp [h, Outcome.fallback, Outcome.decided]

/-- The check of a condition finds fault with its operands exactly if deciding it does, in whatever
state and whoever decides custom conditions. -/
theorem hasFitOperands_eq_false_iff (c : Condition) (custom : Option CustomEvaluator)
    (g : GameState) :
    c.hasFitOperands = false ↔
      ∃ t f, (c.outcome custom g).anomaly = some (.missingOperand t f) := by
  unfold hasFitOperands outcome
  cases c.type with
  | hasHope => simp only [Outcome.anomaly_ofExcept_map, keyOperand_missing_iff]
  | hasDiscontent => simp only [Outcome.anomaly_ofExcept_map, keyOperand_missing_iff]
  | hasBuilding => simp only [Outcome.anomaly_ofExcept_map, textOperand_missing_iff]
  | hasLaw => simp only [Outcome.anomaly_ofExcept_map, textOperand_missing_iff]
  | compareHopeDiscontent => simp [Outcome.decided]
  | hungerLevel => simp only [Outcome.anomaly_ofExcept_map, numberOperand_missing_iff]
  | stressLevel => simp only [Outcome.anomaly_ofExcept_map, numberOperand_missing_iff]
  | resourceAmount => exact (countOutcome_missing_iff c g.resource).symm
  | citizensType => exact (countOutcome_missing_iff c g.citizensOf).symm
  | custom => cases custom <;> simp [Outcome.decided, Outcome.fallback]

end Condition

end CityCards
