import CityCards.Proofs.Play.Related

/-!
# Steps that make no calls

Only two steps of a resolution involve the handler. All others do the same whatever the handler and
the state of it are, so two resolutions of a tree with different handlers are related if what makes
no calls is, and what the two handlers do.

Main definitions:
* `Resolve.Silent`: parts that make no calls.

Results:
* `Resolve.silent_checkDepth`, `Resolve.silent_test`, `Resolve.silent_tally`,
  `Resolve.silent_count`: the steps that make no calls.
* `Resolve.visitRelated_of_silent`: what is done at a node is related if calls and silent parts are.
-/

namespace CityCards

/-- The run with another state of the handler, which may be of another kind. -/
def Run.withPlayer {σ τ : Type} (run : Run σ) (t : τ) : Run τ := { run with player := t }

namespace Resolve

variable {α : Type}

/-- What a part leaves as it was if it makes no calls. -/
structure SameButAccount {σ : Type} (run run' : Run σ) : Prop where
  calls : run'.calls = run.calls
  game : run'.game = run.game
  player : run'.player = run.player

/-- The part makes no calls, and does the same whatever the state of the handler is. -/
structure Silent (m : (σ : Type) → Resolve σ α) : Prop where
  same : ∀ {σ : Type} (run : Run σ), SameButAccount run (exec (m σ) run).2
  blind : ∀ {σ τ : Type} (run : Run σ) (t : τ),
    exec (m τ) (run.withPlayer t) = ((exec (m σ) run).1, (exec (m σ) run).2.withPlayer t)

theorem silent_checkDepth (r : Rules) (depth : Nat) :
    Silent fun σ => checkDepth (σ := σ) r depth := by
  constructor
  · intro σ run
    rw [exec_checkDepth]
    split <;> exact ⟨rfl, rfl, rfl⟩
  · intro σ τ run t
    rw [exec_checkDepth, exec_checkDepth]
    split <;> rfl

theorem silent_test (r : Rules) (c : Condition) : Silent fun σ => test (σ := σ) r c := by
  constructor
  · intro σ run
    rw [exec_test]
    cases (c.outcome r.custom run.game).anomaly with
    | none => exact ⟨rfl, rfl, rfl⟩
    | some a => cases r.config.strict <;> exact ⟨rfl, rfl, rfl⟩
  · intro σ τ run t
    have hgame : (run.withPlayer t).game = run.game := rfl
    rw [exec_test, exec_test, hgame]
    cases (c.outcome r.custom run.game).anomaly with
    | none => rfl
    | some a => cases r.config.strict <;> rfl

theorem silent_tally (r : Rules) (target : String) :
    Silent fun σ => tally (σ := σ) r target := by
  constructor
  · intro σ run
    rw [exec_tally]
    cases Tally.parse? target with
    | some t => exact ⟨rfl, rfl, rfl⟩
    | none => cases r.config.strict <;> exact ⟨rfl, rfl, rfl⟩
  · intro σ τ run t
    rw [exec_tally, exec_tally]
    cases Tally.parse? target with
    | some t => rfl
    | none => cases r.config.strict <;> rfl

theorem silent_count (r : Rules) (entry : Report) : Silent fun σ => count (σ := σ) r entry := by
  constructor
  · intro σ run
    rw [exec_count]
    split <;> exact ⟨rfl, rfl, rfl⟩
  · intro σ τ run t
    have hreport : (run.withPlayer t).report = run.report := rfl
    rw [exec_count, exec_count, hreport]
    split <;> rfl

theorem silent_throw (e : ResolveError) : Silent fun σ => (throw e : Resolve σ α) :=
  ⟨fun _ => ⟨rfl, rfl, rfl⟩, fun _ _ => rfl⟩

/-- What two resolutions with different handlers do at a node is related if parts that make no calls
are related to themselves, and the two kinds of calls to each other. -/
theorem visitRelated_of_silent {σ τ : Type}
    {R : (α : Type) → Resolve σ α → Resolve τ α → Prop} (hR : Sequential R) (h : Handler σ)
    (h' : Handler τ)
    (hsilent : ∀ {α : Type} {m : (σ : Type) → Resolve σ α}, Silent m → R α (m σ) (m τ))
    (hbasic : ∀ b, R Unit (applyBasic h b) (applyBasic h' b))
    (hchoice : ∀ c, R (List Nat) (makeChoice h c) (makeChoice h' c))
    (r : Rules) (depth : Nat) (e : Effect) : VisitRelated R r r h h' depth e := by
  refine ⟨hsilent (silent_checkDepth r depth), fun entry _ => hsilent (silent_count r entry), ?_⟩
  cases e with
  | basic b => exact hbasic b
  | conditional c t f m => exact hsilent (silent_test r c)
  | multi bs d m => exact fun b _ => hsilent (silent_test r b.1)
  | choice d lo hi os m =>
    refine hR.bind (hchoice ⟨d, lo, hi, os, m⟩) fun is =>
      hR.bind (hsilent (silent_count r .chosen)) fun _ => ?_
    cases select (List.finRange os.length) is with
    | ok ps => exact hR.pure ps
    | error e => exact hsilent (silent_throw e)
  | forEach t b d m => exact hsilent (silent_tally r t)
  | composite es d m => trivial

end Resolve

end CityCards
