import CityCards.Play.Scripted
import CityCards.Proofs.City.Alike
import CityCards.Proofs.Play.Related
import Mathlib.Data.List.Forall2

/-!
# Resolving from states that look alike

States that look alike differ at most in which counts of zero have been entered. A resolution cannot
tell them apart if neither the handler nor who decides custom conditions can: from both it comes to
the same result by the same calls, and it leaves states that look alike. A handler may keep what it
is passed, so its own states need not be the same either; it is enough that it goes on to do the
same from them.

Main definitions:
* `Call.Alike`: the same call, of states that look alike.
* `Handler.RespectsAlike`: a handler that does the same to states that look alike.
* `Resolution.Alike`: resolutions that differ in nothing but states that look alike.
* `Resolve.Blind`: parts that do the same from runs that look alike.

Results:
* `Effect.blind_resolveAt`: resolving a tree is such a part.
* `Effect.resolve_alike`: what that means for the results, the states and the calls.
-/

namespace CityCards

/-- The same call, with the same answer, of states that look alike. -/
inductive Call.Alike : Call → Call → Prop where
  | applied (b : Basic) (answer : Except String Unit) {before before' : GameState}
    (h : before.Alike before') : Alike (.applied b before answer) (.applied b before' answer)
  | asked (c : Choice) (answer : Except String (List Nat)) :
    Alike (.asked c answer) (.asked c answer)

section

variable {σ : Type} (Same : σ → σ → Prop)

/-- For states of the city that look alike, the handler gives the same answers and leaves states
that look alike. Its own states stay related, and from related ones it makes the same choices. -/
structure Handler.RespectsAlike (h : Handler σ) : Prop where
  answer : ∀ {g g' s s'}, g.Alike g' → Same s s' → ∀ b,
    (h.applyBasic b g s).1 = (h.applyBasic b g' s').1
  game : ∀ {g g' s s'}, g.Alike g' → Same s s' → ∀ b,
    (h.applyBasic b g s).2.1.Alike (h.applyBasic b g' s').2.1
  player : ∀ {g g' s s'}, g.Alike g' → Same s s' → ∀ b,
    Same (h.applyBasic b g s).2.2 (h.applyBasic b g' s').2.2
  selection : ∀ {s s'}, Same s s' → ∀ c, (h.makeChoice c s).1 = (h.makeChoice c s').1
  chooser : ∀ {s s'}, Same s s' → ∀ c, Same (h.makeChoice c s).2 (h.makeChoice c s').2

/-- The runs differ in nothing but states that look alike, and related states of the handler. -/
structure Run.Alike (run run' : Run σ) : Prop where
  game : run.game.Alike run'.game
  player : Same run.player run'.player
  report : run.report = run'.report
  calls : List.Forall₂ Call.Alike run.calls run'.calls

/-- The resolutions come to the same result by the same calls, and they leave states that look alike
and related states of the handler. -/
structure Resolution.Alike (res res' : Resolution σ) : Prop where
  result : res.result = res'.result
  game : res.game.Alike res'.game
  player : Same res.player res'.player
  calls : List.Forall₂ Call.Alike res.calls res'.calls

end

theorem Run.Alike.note {σ : Type} {Same : σ → σ → Prop} {run run' : Run σ}
    (h : run.Alike Same run') (d : Diagnostic) : (run.note d).Alike Same (run'.note d) := by
  refine { h with report := ?_ }
  rw [Run.note, Run.note, h.report]

/-! ## Players of this kind -/

/-- Where the states of the handler have to be the same, all depends on how it applies effects. -/
theorem Handler.respectsAlike_eq_iff {σ : Type} {h : Handler σ} :
    h.RespectsAlike (· = ·) ↔ ∀ g g' s b, g.Alike g' →
      (h.applyBasic b g s).1 = (h.applyBasic b g' s).1 ∧
      (h.applyBasic b g s).2.1.Alike (h.applyBasic b g' s).2.1 ∧
      (h.applyBasic b g s).2.2 = (h.applyBasic b g' s).2.2 := by
  constructor
  · exact fun hh g g' s b hg => ⟨hh.answer hg rfl b, hh.game hg rfl b, hh.player hg rfl b⟩
  · intro hh
    constructor
    · rintro g g' s _ hg rfl b
      exact (hh g g' s b hg).1
    · rintro g g' s _ hg rfl b
      exact (hh g g' s b hg).2.1
    · rintro g g' s _ hg rfl b
      exact (hh g g' s b hg).2.2
    · rintro s _ rfl c
      rfl
    · rintro s _ rfl c
      rfl

theorem GameState.Alike.raiseLevel {g g' : GameState} (h : g.Alike g') (k : EffectKind) :
    (k.raiseLevel g).Alike (k.raiseLevel g') := by
  unfold EffectKind.raiseLevel
  split
  · rw [h.hunger]
    exact h.setHunger _
  · rw [h.stress]
    exact h.setStress _
  · exact h

theorem Script.respectsAlike_handler (script : Script) :
    script.handler.RespectsAlike (· = ·) := by
  refine Handler.respectsAlike_eq_iff.mpr fun g g' s b hg => ?_
  simp only [handler, applyBasic]
  split
  · exact ⟨rfl, hg, rfl⟩
  · exact ⟨rfl, (hg.raiseLevel b.kind).applyAll _, rfl⟩

theorem Decider.respectsAlike_evaluator (d : Decider) : d.evaluator.RespectsAlike := by
  intro c g g' h
  cases d with
  | always b => rfl
  | describedWith s => rfl
  | stressAbove n => simp only [evaluator, h.stress]

/-! ## Parts that cannot tell runs apart -/

namespace Resolve

variable {σ α β : Type} {Same : σ → σ → Prop}

/-- From runs that look alike, the two parts come to the same outcome and leave runs that look
alike. -/
def Blind (Same : σ → σ → Prop) (α : Type) (m n : Resolve σ α) : Prop :=
  ∀ run run', run.Alike Same run' →
    (exec m run).1 = (exec n run').1 ∧ (exec m run).2.Alike Same (exec n run').2

theorem blind_pure (a : α) : Blind Same α (pure a) (pure a) := fun _ _ h => ⟨rfl, h⟩

theorem blind_throw (e : ResolveError) : Blind Same α (throw e) (throw e) := fun _ _ h => ⟨rfl, h⟩

theorem blind_bind {m n : Resolve σ α} {f g : α → Resolve σ β} (hm : Blind Same α m n)
    (hf : ∀ a, Blind Same β (f a) (g a)) : Blind Same β (m >>= f) (n >>= g) := by
  intro run run' h
  have hfirst := hm run run' h
  rw [exec_bind, exec_bind]
  generalize exec m run = outcome at hfirst ⊢
  generalize exec n run' = outcome' at hfirst ⊢
  obtain ⟨answer, next⟩ := outcome
  obtain ⟨answer', next'⟩ := outcome'
  obtain ⟨rfl : answer = answer', hnext⟩ := hfirst
  cases answer with
  | error e => exact ⟨rfl, hnext⟩
  | ok a => exact hf a next next' hnext

theorem sequential_blind : Sequential (Blind Same) := ⟨blind_pure, blind_bind⟩

/-! ## Single steps -/

theorem blind_checkDepth (r : Rules) (depth : Nat) :
    Blind Same Unit (checkDepth r depth) (checkDepth r depth) := by
  intro run run' h
  rw [exec_checkDepth, exec_checkDepth]
  split <;> exact ⟨rfl, h⟩

theorem blind_test {r : Rules} (hr : ∀ decide ∈ r.custom, decide.RespectsAlike) (c : Condition) :
    Blind Same Bool (test r c) (test r c) := by
  intro run run' h
  rw [exec_test, exec_test, h.game.outcome hr]
  cases (c.outcome r.custom run'.game).anomaly with
  | none => exact ⟨rfl, h⟩
  | some a =>
    cases r.config.strict
    · exact ⟨rfl, h.note (.condition a)⟩
    · exact ⟨rfl, h⟩

theorem blind_tally (r : Rules) (target : String) :
    Blind Same UInt32 (tally r target) (tally r target) := by
  intro run run' h
  rw [exec_tally, exec_tally]
  cases Tally.parse? target with
  | some t =>
    dsimp only
    rw [h.game.count]
    exact ⟨rfl, h⟩
  | none =>
    cases r.config.strict
    · exact ⟨rfl, h.note (.unknownTarget target)⟩
    · exact ⟨rfl, h⟩

theorem blind_count (r : Rules) (entry : Report) :
    Blind Same Unit (count r entry) (count r entry) := by
  intro run run' h
  rw [exec_count, exec_count, h.report]
  split
  · exact ⟨rfl, h⟩
  · exact ⟨rfl, { h with report := rfl }⟩

theorem blind_applyBasic {h : Handler σ} (hh : h.RespectsAlike Same) (b : Basic) :
    Blind Same Unit (applyBasic h b) (applyBasic h b) := by
  intro run run' hrun
  have hanswer := hh.answer hrun.game hrun.player b
  have hgame := hh.game hrun.game hrun.player b
  have hplayer := hh.player hrun.game hrun.player b
  rw [exec_applyBasic, exec_applyBasic]
  generalize h.applyBasic b run.game run.player = outcome at *
  generalize h.applyBasic b run'.game run'.player = outcome' at *
  obtain ⟨answer, game, player⟩ := outcome
  obtain ⟨answer', game', player'⟩ := outcome'
  obtain rfl : answer = answer' := hanswer
  have hcalls := List.rel_append hrun.calls
    (List.Forall₂.cons (Call.Alike.applied b answer hrun.game) .nil)
  cases answer with
  | error m => exact ⟨rfl, hgame, hplayer, hrun.report, hcalls⟩
  | ok _ => exact ⟨rfl, hgame, hplayer, hrun.report, hcalls⟩

theorem blind_makeChoice {h : Handler σ} (hh : h.RespectsAlike Same) (c : Choice) :
    Blind Same (List Nat) (makeChoice h c) (makeChoice h c) := by
  intro run run' hrun
  have hselection := hh.selection hrun.player c
  have hchooser := hh.chooser hrun.player c
  rw [exec_makeChoice, exec_makeChoice]
  generalize h.makeChoice c run.player = outcome at *
  generalize h.makeChoice c run'.player = outcome' at *
  obtain ⟨answer, player⟩ := outcome
  obtain ⟨answer', player'⟩ := outcome'
  obtain rfl : answer = answer' := hselection
  have hcalls := List.rel_append hrun.calls (List.Forall₂.cons (Call.Alike.asked c answer) .nil)
  cases answer with
  | error m => exact ⟨rfl, hrun.game, hchooser, hrun.report, hcalls⟩
  | ok is => exact ⟨rfl, hrun.game, hchooser, hrun.report, hcalls⟩

theorem blind_choose (r : Rules) {h : Handler σ} (hh : h.RespectsAlike Same) (c : Choice) :
    Blind Same (List (Fin c.options.length)) (choose r h c) (choose r h c) := by
  refine blind_bind (blind_makeChoice hh c) fun is => blind_bind (blind_count r .chosen) fun _ => ?_
  cases select (List.finRange c.options.length) is with
  | ok ps => exact blind_pure ps
  | error e => exact blind_throw e

theorem visit_blind {r : Rules} {h : Handler σ} (hr : ∀ decide ∈ r.custom, decide.RespectsAlike)
    (hh : h.RespectsAlike Same) (depth : Nat) (e : Effect) :
    VisitRelated (Blind Same) r r h h depth e := by
  refine ⟨blind_checkDepth r depth, fun entry _ => blind_count r entry, ?_⟩
  cases e with
  | basic b => exact blind_applyBasic hh b
  | conditional c t f m => exact blind_test hr c
  | multi bs d m => exact fun b _ => blind_test hr b.1
  | choice d lo hi os m => exact blind_choose r hh ⟨d, lo, hi, os, m⟩
  | forEach t b d m => exact blind_tally r t
  | composite es d m => trivial

end Resolve

open Resolve

/-! ## Whole resolutions -/

namespace Effect

variable {σ : Type} {Same : σ → σ → Prop} (e : Effect) {r : Rules} {h : Handler σ}

theorem blind_resolveAt (hr : ∀ decide ∈ r.custom, decide.RespectsAlike)
    (hh : h.RespectsAlike Same) : Blind Same Unit (resolveAt r h 0 e) (resolveAt r h 0 e) :=
  resolveAt_related sequential_blind [] e fun x _ => visit_blind hr hh x.1.length x.2

/-- From states that look alike, a tree is resolved with the same result, by the same calls of the
handler, and to states that look alike, if neither the handler nor who decides custom conditions
tells such states apart. -/
theorem resolve_alike (hr : ∀ decide ∈ r.custom, decide.RespectsAlike)
    (hh : h.RespectsAlike Same) {g g' : GameState} (hg : g.Alike g') {s s' : σ} (hs : Same s s') :
    (e.resolve r h g s).Alike Same (e.resolve r h g' s') := by
  have hstart : (Run.start g s).Alike Same (Run.start g' s') := ⟨hg, hs, rfl, .nil⟩
  have hend := blind_resolveAt e hr hh _ _ hstart
  rw [resolve_eq, resolve_eq]
  obtain ⟨hanswer, hrun⟩ := hend
  refine ⟨?_, hrun.game, hrun.player, hrun.calls⟩
  simp only [Resolution.ofOutcome, hanswer, hrun.report]

/-- Conditions and a target that look at single counts and at totals. -/
def watchfulTree : Effect := .sequence [
  .conditional (.resource .wood .equal 0 "Sin madera") (.plain .changeStress "Tensa") none .none,
  .conditional (.hopeVsDiscontent .equal "Empate") (.plain .heal "Cura") none .none,
  .conditional (.custom "Tensión") (.plain .treat "Trata") none .none,
  .forEach "esperanza_activa_total" (.plain .heal "Cura") "Por esperanza" .none]

/-- Nothing is there, but it has been entered that there is nothing of some kinds. -/
def zeroed : GameState :=
  (((GameState.empty.setHope .justice .zero).setDiscontent .anger .zero).setResource .wood
    0).setCitizens .children 0

/-- The states are not the same, but the tree is resolved in the same way from both. -/
theorem resolve_zeroed_alike : GameState.empty ≠ zeroed ∧ GameState.empty.Alike zeroed ∧
    (watchfulTree.resolve ⟨.default, some (Decider.stressAbove 0).evaluator, .stops⟩
      Script.empty.handler .empty .all).Alike (· = ·)
    (watchfulTree.resolve ⟨.default, some (Decider.stressAbove 0).evaluator, .stops⟩
      Script.empty.handler zeroed .all) := by
  have hzeroed : zeroed.Alike .empty :=
    (GameState.alike_setCitizens_self _ .children).trans <|
      (GameState.alike_setResource_self _ .wood).trans <|
        (GameState.alike_setDiscontent_self _ .anger).trans <|
          GameState.alike_setHope_self .empty .justice
  refine ⟨by decide, hzeroed.symm, ?_⟩
  refine watchfulTree.resolve_alike ?_ Script.empty.respectsAlike_handler hzeroed.symm rfl
  rintro _ ⟨⟩
  exact Decider.respectsAlike_evaluator _

end Effect

end CityCards
