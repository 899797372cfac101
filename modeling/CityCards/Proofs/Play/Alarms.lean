import CityCards.Play.Scripted
import CityCards.Proofs.Condition.Fallback
import CityCards.Proofs.Effect.Addresses
import CityCards.Proofs.Play.Diagnosed

/-!
# No false alarms

A condition whose operands are found to be unfit cannot be decided in any state, and a target that
is found to be missing or unknown counts nothing. So wherever a resolution comes to such a condition
or such a node, the fault shows.

Main definitions:
* `Resolution.Shows`: what comes of a diagnostic, under strict and under lenient rules.
* `Visit.Reaches`: a condition is come to at a visit.

Results:
* `Condition.exists_missing_of_isUnfit`: unfit operands are missing operands.
* `Effect.shows_of_diagnostics`: what is diagnosed at a visit shows.
* `Effect.violations_borne_out`: what that means for the faults of a tree.
-/

namespace CityCards

/-- What comes of the diagnostic: a strict resolution has ended with it, and the report of a lenient
one has it. -/
structure Resolution.Shows {σ : Type} (res : Resolution σ) (strict : Bool) (d : Diagnostic) :
    Prop where
  fatal : strict = true → res.result = .error (.anomaly d)
  noted : strict = false → ∀ report, res.result = .ok report → d ∈ report.diagnostics

/-- The condition is come to at the visit: it is one of those that are asked, and under strict rules
none before it has an anomaly. -/
def Visit.Reaches (r : Rules) (v : Visit) (c : Condition) : Prop :=
  ∃ before after, v.asked r.custom = before ++ c :: after ∧
    (r.config.strict = true → ∀ c' ∈ before, (c'.outcome r.custom v.game).anomaly = none)

/-! ## Faults of conditions and targets -/

theorem Condition.isSome_missing? (c : Condition) : c.missing?.isSome = !c.hasFitOperands := by
  unfold missing? hasFitOperands
  cases c.type with
  | hasHope | hasDiscontent | hasBuilding | hasLaw => cases c.text? <;> rfl
  | hungerLevel | stressLevel => cases c.number? <;> rfl
  | resourceAmount | citizensType => cases c.number? <;> cases c.compareWith <;> rfl
  | compareHopeDiscontent | custom => rfl

/-- Operands of the wrong shape are operands that are missing. -/
theorem Condition.exists_missing_of_isUnfit {c : Condition} (h : c.IsUnfit) :
    ∃ field, c.missing? = some field := by
  rw [← Option.isSome_iff_exists, isSome_missing?, c.isUnfit_iff.mp h]
  rfl

/-- No known target is blank. -/
theorem Tally.parse?_of_blank {t : String} (h : ∀ c ∈ t.toList, Text.isBlank c = true) :
    parse? t = none := by
  have hnames : (known.map Prod.fst).all (fun name => !Text.isBlankText name) = true := by
    decide +kernel
  rw [parse?_eq_none_iff]
  intro ht
  have hnot := List.all_eq_true.mp hnames t ht
  have hblank : Text.isBlankText t = true := List.all_eq_true.mpr h
  rw [hblank] at hnot
  cases hnot

namespace Effect

variable {n : Effect} {s : Spot}

theorem condition_of_breaks {type : ConditionType} (h : n.Breaks s (.unfitOperands type)) :
    ∃ c, n.part? s = some (.condition c) ∧ c.type = type ∧ c.IsUnfit := by
  cases h with
  | condition hunfit => exact ⟨_, rfl, rfl, hunfit⟩
  | branchCondition hb hunfit => exact ⟨_, by rw [part?, hb, Option.map_some], rfl, hunfit⟩

theorem target_of_breaks {f : Flaw} (h : n.Breaks s f)
    (hf : f = .noTarget ∨ ∃ t, f = .unknownTarget t) :
    ∃ t b d m, n = .forEach t b d m ∧ (∀ t', f = .unknownTarget t' → t' = t) ∧
      Tally.parse? t = none := by
  cases h with
  | noTarget hblank => exact ⟨_, _, _, _, rfl, nofun, Tally.parse?_of_blank hblank⟩
  | unknownTarget _ hknown =>
    exact ⟨_, _, _, _, rfl, fun _ heq => (Flaw.unknownTarget.inj heq).symm,
      (Tally.parse?_eq_none_iff _).mpr hknown⟩
  | _ => simp at hf

end Effect

/-! ## Faults at visits -/

namespace Visit

variable {v : Visit} {c : Condition}

theorem diagnostics_of_asked {custom : Option CustomEvaluator} (hc : c ∈ v.asked custom) :
    v.diagnostics custom = (v.asked custom).flatMap (Condition.diagnostics custom v.game) := by
  obtain ⟨p, n, g⟩ := v
  cases n with
  | forEach t b d m => cases hc
  | _ => rfl

/-- The anomaly of a condition that is come to is diagnosed, and under strict rules it is the first
that is. -/
theorem Reaches.diagnostics {r : Rules} (h : v.Reaches r c) {a : Anomaly}
    (ha : (c.outcome r.custom v.game).anomaly = some a) :
    .condition a ∈ v.diagnostics r.custom ∧
      (r.config.strict = true → .condition a ∈ (v.diagnostics r.custom).head?) := by
  obtain ⟨before, after, hasked, hbefore⟩ := h
  have hc : c ∈ v.asked r.custom := by simp [hasked]
  rw [diagnostics_of_asked hc, hasked, List.flatMap_append, List.flatMap_cons,
    Condition.diagnostics_of_some ha]
  refine ⟨by simp, fun hs => ?_⟩
  have hnil : before.flatMap (Condition.diagnostics r.custom v.game) = [] :=
    List.flatMap_eq_nil_iff.mpr fun c' hc' => Condition.diagnostics_of_none (hbefore hs c' hc')
  rw [hnil]
  rfl

end Visit

namespace Effect

variable {σ : Type} {e : Effect} {r : Rules} {h : Handler σ} {g : GameState} {s : σ}

/-- What is diagnosed at a visit shows, if under strict rules it is the first there. -/
theorem shows_of_diagnostics {x : Visit} (hx : x ∈ e.visits r h g s) {d : Diagnostic}
    (hd : d ∈ x.diagnostics r.custom)
    (hfirst : r.config.strict = true → d ∈ (x.diagnostics r.custom).head?) :
    (e.resolve r h g s).Shows r.config.strict d where
  fatal hstrict := (result_eq_anomaly_iff hstrict).mpr ⟨x, hx, hfirst hstrict⟩
  noted hlenient report hreport := by
    rw [diagnostics_eq_flatMap hlenient hreport]
    exact List.mem_flatMap.mpr ⟨x, hx, hd⟩

variable (r h g s)

/-- A condition that is reported for its operands lacks an operand, whatever the state and whoever
decides custom conditions; and wherever a resolution comes to it, this shows. A repeated effect that
is reported for its target counts nothing, and at every visit of it the target shows, and the body
is not entered. A strict resolution ends for nothing else than the first that is diagnosed at a
visit, and nothing else is noted in a lenient one than what is diagnosed at the visits, in their
order. -/
theorem violations_borne_out {v : Violation} (hv : v ∈ e.violations) :
    (∀ type, v.flaw = .unfitOperands type → ∃ n c field, e.at? v.place = some n ∧
      n.part? v.spot = some (.condition c) ∧ c.type = type ∧
      (∀ custom g', (c.outcome custom g').anomaly = some (.missingOperand type field)) ∧
      ∀ x ∈ e.visits r h g s, x.place = v.place → x.node = n ∧ (x.Reaches r c →
        (e.resolve r h g s).Shows r.config.strict
          (.condition (.missingOperand type field)))) ∧
    (v.flaw = .noTarget ∨ (∃ t, v.flaw = .unknownTarget t) →
      ∃ t b d m, e.at? v.place = some (.forEach t b d m) ∧
      (∀ t', v.flaw = .unknownTarget t' → t' = t) ∧
      ∀ x ∈ e.visits r h g s,
        (x.place = v.place → x.count? = some 0 ∧ x.diagnostics r.custom = [.unknownTarget t] ∧
          (e.resolve r h g s).Shows r.config.strict (.unknownTarget t)) ∧
        ¬v.place ++ [.body] <+: x.place) ∧
    (r.config.strict = true → ∀ d, (e.resolve r h g s).result = .error (.anomaly d) ↔
      ∃ x ∈ e.visits r h g s, d ∈ (x.diagnostics r.custom).head?) ∧
    (r.config.strict = false → ∀ report, (e.resolve r h g s).result = .ok report →
      report.diagnostics = (e.visits r h g s).flatMap (Visit.diagnostics r.custom)) ∧
    (e.visited r h g s).alone = e.resolve r h g s := by
  obtain ⟨n, hn, hbreaks⟩ := exists_breaks_of_mem_violations hv
  have hnode {x : Visit} (hx : x ∈ e.visits r h g s) (hplace : x.place = v.place) : x.node = n := by
    have hfound := (leadsTo_of_mem_visits hx).found
    rw [hplace, hn] at hfound
    exact (Option.some.inj hfound).symm
  refine ⟨fun type hflaw => ?_, fun hflaw => ?_, fun hstrict d => result_eq_anomaly_iff hstrict,
    fun hlenient report hreport => diagnostics_eq_flatMap hlenient hreport,
    e.alone_visited r h g s⟩
  · rw [hflaw] at hbreaks
    obtain ⟨c, hpart, rfl, hunfit⟩ := condition_of_breaks hbreaks
    obtain ⟨field, hmissing⟩ := Condition.exists_missing_of_isUnfit hunfit
    refine ⟨n, c, field, hn, hpart, rfl, Condition.anomaly_of_missing hmissing, ?_⟩
    refine fun x hx hplace => ⟨hnode hx hplace, fun hreaches => ?_⟩
    obtain ⟨hmem, hfirst⟩ :=
      hreaches.diagnostics (Condition.anomaly_of_missing hmissing r.custom x.game)
    exact shows_of_diagnostics hx hmem hfirst
  · obtain ⟨t, b, d, m, rfl, hname, hunknown⟩ := target_of_breaks hbreaks hflaw
    refine ⟨t, b, d, m, hn, hname, fun x hx => ⟨fun hplace => ?_, fun hbelow => ?_⟩⟩
    · have hdiagnostics : x.diagnostics r.custom = [.unknownTarget t] := by
        rw [Visit.diagnostics, hnode hx hplace]
        simp [Tally.diagnostics, hunknown]
      refine ⟨?_, hdiagnostics, shows_of_diagnostics hx ?_ fun _ => ?_⟩
      · rw [Visit.count?, hnode hx hplace]
        simp [Tally.countOf, hunknown]
      · rw [hdiagnostics]
        exact List.mem_singleton_self _
      · rw [hdiagnostics]
        rfl
    · exact (leadsTo_of_mem_visits hx).known v.place t b d m hn hbelow hunknown

/-- An effect that is repeated for a blank target, and a second branch that asks for no number. -/
def alarming : Effect :=
  sequence [
    .forEach " " (.plain .heal "Cura") "Por cada uno" .none,
    .multi [(.hasLaw "toque" "Hay toque", .plain .treat "Trata"),
      (.plain .hungerLevel "Hay hambre", .plain .heal "Cura")] none .none]

/-- A strict resolution ends at the target. A lenient one goes on to the branches, and lets both
faults show. -/
theorem violations_borne_out_alarming :
    alarming.violations = [⟨[.member 0], .node, .noTarget⟩,
      ⟨[.member 1], .branchCondition 1, .unfitOperands .hungerLevel⟩] ∧
    (alarming.resolve ⟨.strictly, none, .stops⟩ Script.empty.handler .empty .all).Shows true
      (.unknownTarget " ") ∧
    (alarming.resolve ⟨.default, none, .stops⟩ Script.empty.handler .empty .all).Shows false
      (.unknownTarget " ") ∧
    (alarming.resolve ⟨.default, none, .stops⟩ Script.empty.handler .empty .all).Shows false
      (.condition (.missingOperand .hungerLevel .value)) ∧
    (alarming.resolve ⟨.default, none, .stops⟩ Script.empty.handler .empty .all).result =
      .ok ⟨0, 0, 0, [.unknownTarget " ", .condition (.missingOperand .hungerLevel .value)]⟩ := by
  have hfound : alarming.violations = [⟨[.member 0], .node, .noTarget⟩,
      ⟨[.member 1], .branchCondition 1, .unfitOperands .hungerLevel⟩] := by decide +kernel
  have htarget (r : Rules) (hr : ∃ x ∈ alarming.visits r Script.empty.handler .empty .all,
      x.place = [.member 0]) :
      (alarming.resolve r Script.empty.handler .empty .all).Shows r.config.strict
        (.unknownTarget " ") := by
    obtain ⟨-, htargets, -⟩ := violations_borne_out r Script.empty.handler .empty .all
      (e := alarming) (v := ⟨[.member 0], .node, .noTarget⟩) (by rw [hfound]; simp)
    obtain ⟨t, b, d, m, hat, -, hvisits⟩ := htargets (.inl rfl)
    cases hat
    obtain ⟨x, hx, hplace⟩ := hr
    exact ((hvisits x hx).1 hplace).2.2
  have hcondition : (alarming.resolve ⟨.default, none, .stops⟩ Script.empty.handler .empty
      .all).Shows false (.condition (.missingOperand .hungerLevel .value)) := by
    obtain ⟨hconditions, -⟩ := violations_borne_out ⟨.default, none, .stops⟩ Script.empty.handler
      .empty .all (e := alarming)
      (v := ⟨[.member 1], .branchCondition 1, .unfitOperands .hungerLevel⟩) (by rw [hfound]; simp)
    obtain ⟨n, c, field, hat, hpart, -, hanomaly, hvisits⟩ := hconditions .hungerLevel rfl
    cases hat
    cases hpart
    cases hanomaly none .empty
    have hreached : ∃ x ∈ alarming.visits ⟨.default, none, .stops⟩ Script.empty.handler .empty .all,
        x.place = [.member 1] ∧ x.asked none = [.hasLaw "toque" "Hay toque",
          .plain .hungerLevel "Hay hambre"] := by decide +kernel
    obtain ⟨x, hx, hplace, hasked⟩ := hreached
    exact (hvisits x hx hplace).2 ⟨[.hasLaw "toque" "Hay toque"], [], hasked, nofun⟩
  exact ⟨hfound, htarget ⟨.strictly, none, .stops⟩ (by decide +kernel),
    htarget ⟨.default, none, .stops⟩ (by decide +kernel), hcondition, by decide +kernel⟩

end Effect

end CityCards
