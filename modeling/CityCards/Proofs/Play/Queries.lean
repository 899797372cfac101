import CityCards.Proofs.City.Alike
import CityCards.Proofs.Condition.Fallback
import CityCards.Proofs.Effect.Exactness
import CityCards.Proofs.Play.Causes
import CityCards.Proofs.Play.Strictness

/-!
# Queries

A condition refers to kinds and numbers by its operands, which may be anything. A query is about
kinds and numbers that there are. The condition built for a query carries the kind as a name, and
that name is looked up again when the condition is decided; the answer is the one that the query
itself asks for.

Main definitions:
* `Query.Holds`: the answer to a query, read directly off the state.
* `Query.condition`: the condition built for a query.
* `Effect.AsksQueries`: a tree with no other conditions, and with known targets.

Results:
* `Query.outcome_condition`: in every state the condition is decided, as the query asks.
* `Effect.resolve_eq_of_decided`: where every condition is decided and every target is known, it
  makes no difference whether anomalies would end the resolution.
* `Effect.resolve_queries`: what that means for queries, and for trees that ask nothing else.
-/

namespace CityCards

/-! ## Comparisons -/

/-- What a comparison says of two integers. -/
def Comparison.Relates (op : Comparison) (a b : Int) : Prop :=
  match op with
  | .equal => a = b
  | .notEqual => a ≠ b
  | .greaterThan => a > b
  | .lessThan => a < b
  | .greaterOrEqual => a ≥ b
  | .lessOrEqual => a ≤ b

instance (op : Comparison) (a b : Int) : Decidable (op.Relates a b) :=
  match op with
  | .equal => inferInstanceAs (Decidable (a = b))
  | .notEqual => inferInstanceAs (Decidable (a ≠ b))
  | .greaterThan => inferInstanceAs (Decidable (a > b))
  | .lessThan => inferInstanceAs (Decidable (a < b))
  | .greaterOrEqual => inferInstanceAs (Decidable (a ≥ b))
  | .lessOrEqual => inferInstanceAs (Decidable (a ≤ b))

theorem Comparison.holds_eq (op : Comparison) (a b : Int) :
    op.holds a b = decide (op.Relates a b) := by
  cases op <;> rfl

/-! ## Queries and their conditions -/

/-- A question about kinds and numbers that there are. -/
inductive Query where
  | hope (k : HopeKind)
  | discontent (k : DiscontentKind)
  | building (id : String)
  | law (id : String)
  | hopeVsDiscontent (op : Comparison)
  | hunger (op : Comparison) (n : Int64)
  | stress (op : Comparison) (n : Int64)
  | resource (k : ResourceKind) (op : Comparison) (n : Int64)
  | citizens (k : CitizenKind) (op : Comparison) (n : Int64)
  deriving DecidableEq, Repr

namespace Query

/-- The answer to the query is yes. -/
def Holds (q : Query) (g : GameState) : Prop :=
  match q with
  | .hope k => 0 < (g.hope k).active.toNat
  | .discontent k => 0 < (g.discontent k).active.toNat
  | .building id => id ∈ g.buildings.names
  | .law id => id ∈ g.laws.names
  | .hopeVsDiscontent op => op.Relates
      ((g.hope .justice).active.toNat + (g.hope .care).active.toNat +
        (g.hope .motivation).active.toNat)
      ((g.discontent .greed).active.toNat + (g.discontent .anger).active.toNat +
        (g.discontent .apathy).active.toNat)
  | .hunger op n => op.Relates g.hunger.toInt n.toInt
  | .stress op n => op.Relates g.stress.toInt n.toInt
  | .resource k op n => op.Relates (g.resource k).toNat n.toInt
  | .citizens k op n => op.Relates (g.citizensOf k).toNat n.toInt

instance (q : Query) (g : GameState) : Decidable (q.Holds g) :=
  match q with
  | .hope k => inferInstanceAs (Decidable (0 < (g.hope k).active.toNat))
  | .discontent k => inferInstanceAs (Decidable (0 < (g.discontent k).active.toNat))
  | .building id => inferInstanceAs (Decidable (id ∈ g.buildings.names))
  | .law id => inferInstanceAs (Decidable (id ∈ g.laws.names))
  | .hopeVsDiscontent op => inferInstanceAs (Decidable (op.Relates _ _))
  | .hunger op n => inferInstanceAs (Decidable (op.Relates g.hunger.toInt n.toInt))
  | .stress op n => inferInstanceAs (Decidable (op.Relates g.stress.toInt n.toInt))
  | .resource k op n => inferInstanceAs (Decidable (op.Relates (g.resource k).toNat n.toInt))
  | .citizens k op n => inferInstanceAs (Decidable (op.Relates (g.citizensOf k).toNat n.toInt))

/-- The condition that is built for the query. -/
def condition (q : Query) (description : String) : Condition :=
  match q with
  | .hope k => .hasHope k description
  | .discontent k => .hasDiscontent k description
  | .building id => .hasBuilding id description
  | .law id => .hasLaw id description
  | .hopeVsDiscontent op => .hopeVsDiscontent op description
  | .hunger op n => .hunger op n description
  | .stress op n => .stress op n description
  | .resource k op n => .resource k op n description
  | .citizens k op n => .citizens k op n description

end Query

namespace Condition

variable {c : Condition} {κ : Type} [Vocabulary κ]

/-- A kind that is asked about by its name is found. -/
theorem keyOperand_of_known {k : κ} (hname : c.text? = some (Vocabulary.name k)) :
    c.keyOperand = .ok k := by
  rw [keyOperand, textOperand, hname]
  dsimp only
  rw [Vocabulary.parse?_name]

theorem decided_keyOperand {k : κ} (hname : c.text? = some (Vocabulary.name k)) (f : κ → Bool) :
    Outcome.ofExcept (c.keyOperand.map f) = .decided (f k) := by
  rw [keyOperand_of_known hname]
  rfl

end Condition

theorem GameState.hasBuilding_eq (g : GameState) (id : String) :
    g.hasBuilding id = decide (id ∈ g.buildings.names) := List.contains_eq_mem id g.buildings.names

theorem GameState.hasLaw_eq (g : GameState) (id : String) :
    g.hasLaw id = decide (id ∈ g.laws.names) := List.contains_eq_mem id g.laws.names

/-- In every state the condition is decided, whoever decides custom ones, and the decision is the
answer to the query. -/
theorem Query.outcome_condition (q : Query) (description : String)
    (custom : Option CustomEvaluator) (g : GameState) :
    (q.condition description).outcome custom g = .decided (decide (q.Holds g)) := by
  cases q with
  | hope k => exact Condition.decided_keyOperand (k := k) rfl _
  | discontent k => exact Condition.decided_keyOperand (k := k) rfl _
  | building id => exact congrArg Outcome.decided (g.hasBuilding_eq id)
  | law id => exact congrArg Outcome.decided (g.hasLaw_eq id)
  | hopeVsDiscontent op =>
    have hrelates : op.Relates g.totalActiveHope g.totalActiveDiscontent ↔
        (hopeVsDiscontent op).Holds g := by
      rw [g.totalActiveHope_eq_add, g.totalActiveDiscontent_eq_add]
      rfl
    exact congrArg Outcome.decided ((op.holds_eq _ _).trans (decide_eq_decide.mpr hrelates))
  | hunger op n => exact congrArg Outcome.decided (op.holds_eq _ _)
  | stress op n => exact congrArg Outcome.decided (op.holds_eq _ _)
  | resource k op n =>
    have hcount := Condition.countOutcome_of_known
      (c := .resource k op n description) rfl (k := k) rfl g.resource
    exact hcount.trans (congrArg Outcome.decided (op.holds_eq _ _))
  | citizens k op n =>
    have hcount := Condition.countOutcome_of_known
      (c := .citizens k op n description) rfl (k := k) rfl g.citizensOf
    exact hcount.trans (congrArg Outcome.decided (op.holds_eq _ _))

/-! ## Trees -/

/-- All conditions of the tree are built for queries, and all its targets are known. -/
structure Effect.AsksQueries (e : Effect) : Prop where
  conditions : ∀ c ∈ e.conditions, ∃ (q : Query) (description : String), c = q.condition description
  targets : ∀ t ∈ e.targets, t ∈ Tally.known.map Prod.fst

/-- Where the strict outcome is no anomaly, the lenient outcome is the same. -/
theorem Resolve.Follows.eq_of_ne {σ α : Type} {strict lenient : Except ResolveError α × Run σ}
    (h : Follows strict lenient) (hne : ∀ d, strict.1 ≠ .error (.anomaly d)) :
    lenient = strict := by
  obtain ⟨error | a, run⟩ := strict
  · cases error with
    | anomaly d => exact absurd rfl (hne d)
    | _ => exact h
  · exact h

namespace Effect

open Resolve

variable {σ : Type} {e : Effect}

/-- Where every condition is decided and every target is known, nothing fails for an anomaly. -/
theorem ne_anomaly_of_decided {r : Rules}
    (hconditions : ∀ c ∈ e.conditions, ∀ g, (c.outcome r.custom g).anomaly = none)
    (htargets : ∀ t ∈ e.targets, t ∈ Tally.known.map Prod.fst) (h : Handler σ) (g : GameState)
    (s : σ) (d : Diagnostic) : (e.resolve r h g s).result ≠ .error (.anomaly d) := by
  intro herror
  cases e.causedIn_resolve r h g s herror with
  | condition c a hstrict hc ha =>
    rw [hconditions c hc] at ha
    cases ha
  | unknownTarget t hstrict ht hunknown =>
    rw [Tally.parse?_eq_none_iff] at hunknown
    exact hunknown (htargets t ht)

/-- So it makes no difference whether anomalies would end the resolution, and none is noted. -/
theorem resolve_eq_of_decided {custom : Option CustomEvaluator}
    (hconditions : ∀ c ∈ e.conditions, ∀ g, (c.outcome custom g).anomaly = none)
    (htargets : ∀ t ∈ e.targets, t ∈ Tally.known.map Prod.fst) (maxDepth : UInt32)
    (overflow : Overflow) (h : Handler σ) (g : GameState) (s : σ) :
    e.resolve (rules maxDepth custom overflow false) h g s =
        e.resolve (rules maxDepth custom overflow true) h g s ∧
      ∀ report, (e.resolve (rules maxDepth custom overflow true) h g s).result = .ok report →
        report.diagnostics = [] := by
  have hagrees := e.agrees_resolveAt maxDepth custom overflow h
  have hquiet := hagrees.quiet (.start g s)
  have hne := ne_anomaly_of_decided (r := rules maxDepth custom overflow true) hconditions htargets
    h g s
  rw [resolve_eq] at hne
  have hsame := (hagrees.follows (.start g s)).eq_of_ne fun d hd =>
    hne d (Resolution.ofOutcome_result_eq_error_iff.mpr hd)
  rw [resolve_eq, resolve_eq, hsame]
  refine ⟨rfl, fun report hreport => ?_⟩
  rw [Resolution.ofOutcome_result_eq_ok_iff] at hreport
  rw [← hreport.2]
  exact hquiet

variable (e)

/-- Conditions that are built for queries are decided in every state, and the decision is the answer
to the query. So a tree that asks nothing else and counts nothing unknown is resolved in the same
way whether anomalies end a resolution or not: there are none. -/
theorem resolve_queries (custom : Option CustomEvaluator) (g : GameState) :
    (∀ (q : Query) description,
      (q.condition description).outcome custom g = .decided (decide (q.Holds g))) ∧
    (e.AsksQueries → ∀ maxDepth overflow (h : Handler σ) s,
      e.resolve (rules maxDepth custom overflow true) h g s =
        e.resolve (rules maxDepth custom overflow false) h g s ∧
      ∀ strict, (∀ d, (e.resolve (rules maxDepth custom overflow strict) h g s).result ≠
          .error (.anomaly d)) ∧
        ∀ report, (e.resolve (rules maxDepth custom overflow strict) h g s).result = .ok report →
          report.diagnostics = []) := by
  refine ⟨fun q description => q.outcome_condition description custom g, ?_⟩
  intro he maxDepth overflow h s
  have hdecided : ∀ c ∈ e.conditions, ∀ g, (c.outcome custom g).anomaly = none := by
    intro c hc g
    obtain ⟨q, description, rfl⟩ := he.conditions c hc
    rw [q.outcome_condition]
    rfl
  obtain ⟨hsame, hclean⟩ := resolve_eq_of_decided hdecided he.targets maxDepth overflow h g s
  refine ⟨hsame.symm, fun strict => ?_⟩
  refine ⟨ne_anomaly_of_decided (r := rules maxDepth custom overflow strict) hdecided he.targets
    h g s, ?_⟩
  cases strict with
  | true => exact hclean
  | false =>
    rw [hsame]
    exact hclean

/-- In a calm city with some care one is healed for every token of anger. -/
def calmTree : Effect :=
  .multi [
    ((Query.hope .care).condition "Hay cuidado", .conditional
      ((Query.stress .lessOrEqual (-3)).condition "Calma")
      (.forEach "ira_activa" (.plain .heal "Cura") "Por cada Ira" .none) none .none)] none .none

theorem asksQueries_calmTree : calmTree.AsksQueries where
  conditions c hc := by
    have hconditions : calmTree.conditions = [(Query.hope .care).condition "Hay cuidado",
      (Query.stress .lessOrEqual (-3)).condition "Calma"] := by decide +kernel
    rw [hconditions] at hc
    rcases List.mem_pair.mp hc with rfl | rfl
    · exact ⟨_, _, rfl⟩
    · exact ⟨_, _, rfl⟩
  targets := by decide +kernel

/-- A calm city with some care, and with two tokens of anger. -/
def calmCity : GameState :=
  ((GameState.empty.setHope .care ⟨1, 0⟩).setDiscontent .anger ⟨2, 1⟩).setStress (-3)

/-- Strict or not, two are healed, and nothing is to be noted. -/
theorem resolve_queries_calm :
    calmTree.AsksQueries ∧
    (Condition.stress .lessOrEqual (-3) "Calma").outcome none calmCity = .decided true ∧
    (∀ strict, (calmTree.resolve (rules 0 none .stops strict) Handler.thorough calmCity ()).result =
      .ok ⟨2, 0, 2, []⟩) ∧
    calmTree.resolve (rules 0 none .stops true) Handler.thorough calmCity () =
      calmTree.resolve (rules 0 none .stops false) Handler.thorough calmCity () := by
  obtain ⟨houtcome, hresolve⟩ := calmTree.resolve_queries none calmCity (σ := Unit)
  obtain ⟨hsame, -⟩ := hresolve asksQueries_calmTree 0 .stops .thorough ()
  have hstrict : (calmTree.resolve (rules 0 none .stops true) Handler.thorough calmCity ()).result =
      .ok ⟨2, 0, 2, []⟩ := by decide +kernel
  refine ⟨asksQueries_calmTree, houtcome (.stress .lessOrEqual (-3)) "Calma", fun strict => ?_,
    hsame⟩
  cases strict with
  | true => exact hstrict
  | false => exact hsame ▸ hstrict

end Effect

end CityCards
