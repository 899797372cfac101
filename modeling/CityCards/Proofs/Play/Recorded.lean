import CityCards.Proofs.Play.Silent

/-!
# What the calls account for

All that a resolution changes it has the handler change, and every call of the handler is noted. So
the states of city and handler in the end are those that one comes to by making just the noted calls
again, in order, from the states in the beginning; also if the resolution has ended with an error.

Main definitions:
* `Handler.Does`: what a single call of a handler leads to.
* `Handler.Plays`: what calls in a row lead to.
* `Resolve.Recorded`: a part changes states only by calls, which it notes.

Results:
* `Handler.Plays.unique`: the same calls from the same states lead to the same states.
* `Effect.recorded_resolveAt`: resolving a tree changes states only by calls, which are noted.
* `Effect.plays_resolve`: what that means for the states that a resolution leaves.
-/

namespace CityCards

/-! ## Calls in a row -/

namespace Call

/-- A basic effect was to be applied. -/
def isApplied : Call → Bool
  | .applied .. => true
  | .asked .. => false

/-- A choice was to be made. -/
def isAsked : Call → Bool
  | .applied .. => false
  | .asked .. => true

end Call

namespace Handler

variable {σ : Type}

/-- In the first states of city and handler, the handler gives the answer that the call records, and
leaves the second states. -/
inductive Does (h : Handler σ) : GameState × σ → Call → GameState × σ → Prop where
  | applied (b : Basic) (g : GameState) (s : σ) :
    Does h (g, s) (.applied b g (h.applyBasic b g s).1) (h.applyBasic b g s).2
  | asked (c : Choice) (g : GameState) (s : σ) :
    Does h (g, s) (.asked c (h.makeChoice c s).1) (g, (h.makeChoice c s).2)

/-- From the first states, the handler is called as recorded and leaves the second states. -/
inductive Plays (h : Handler σ) : GameState × σ → List Call → GameState × σ → Prop where
  | nil (x : GameState × σ) : Plays h x [] x
  | cons {x y z : GameState × σ} {c : Call} {cs : List Call} (head : h.Does x c y)
    (tail : Plays h y cs z) : Plays h x (c :: cs) z

section

variable {h : Handler σ} {x y z : GameState × σ} {c : Call} {cs ds : List Call}

theorem Does.plays (hc : h.Does x c y) : h.Plays x [c] y := .cons hc (.nil y)

theorem Plays.append (hcs : h.Plays x cs y) (hds : h.Plays y ds z) : h.Plays x (cs ++ ds) z := by
  induction hcs with
  | nil x => exact hds
  | cons head tail ih => exact .cons head (ih hds)

theorem Plays.split (hz : h.Plays x (cs ++ ds) z) : ∃ y, h.Plays x cs y ∧ h.Plays y ds z := by
  induction cs generalizing x with
  | nil => exact ⟨x, .nil x, hz⟩
  | cons c cs ih =>
    cases hz with
    | cons head tail =>
      obtain ⟨y, hcs, hds⟩ := ih tail
      exact ⟨y, .cons head hcs, hds⟩

theorem Does.unique (hy : h.Does x c y) (hz : h.Does x c z) : y = z := by
  cases hy <;> cases hz <;> rfl

theorem Plays.unique (hy : h.Plays x cs y) (hz : h.Plays x cs z) : y = z := by
  induction hy with
  | nil x =>
    cases hz with
    | nil => rfl
  | cons head tail ih =>
    cases hz with
    | cons head' tail' =>
      obtain rfl := head.unique head'
      exact ih tail'

end

end Handler

/-! ## Parts that change states only by calls -/

/-- The states of city and handler. -/
def Run.states {σ : Type} (run : Run σ) : GameState × σ := (run.game, run.player)

namespace Resolve

variable {σ α β : Type}

/-- The calls `cs` have been noted, and lead from the states of the one run to those of the
other. -/
structure Records (h : Handler σ) (run : Run σ) (cs : List Call) (run' : Run σ) : Prop where
  calls : run'.calls = run.calls ++ cs
  plays : h.Plays run.states cs run'.states

/-- The part changes states only by calls, which it notes. -/
def Recorded (h : Handler σ) (m : Resolve σ α) : Prop :=
  ∀ run : Run σ, ∃ cs, Records h run cs (exec m run).2

theorem recorded_bind {h : Handler σ} {m : Resolve σ α} {f : α → Resolve σ β}
    (hm : Recorded h m) (hf : ∀ a, Recorded h (f a)) : Recorded h (m >>= f) := by
  intro run
  obtain ⟨cs, hcs⟩ := hm run
  rw [exec_bind]
  generalize exec m run = outcome at hcs ⊢
  obtain ⟨e | a, run'⟩ := outcome
  · exact ⟨cs, hcs⟩
  · obtain ⟨ds, hds⟩ := hf a run'
    refine ⟨cs ++ ds, ?_, hcs.plays.append hds.plays⟩
    rw [hds.calls, hcs.calls, List.append_assoc]

theorem recorded_pure (h : Handler σ) (a : α) : Recorded h (pure a) :=
  fun _ => ⟨[], (List.append_nil _).symm, .nil _⟩

theorem sequential_recorded (h : Handler σ) :
    Sequential (fun _ m (_ : Resolve σ _) => Recorded h m) :=
  ⟨recorded_pure h, recorded_bind⟩

theorem Recorded.grows {h : Handler σ} {m : Resolve σ α} (hm : Recorded h m) (run : Run σ) :
    run.calls <+: (exec m run).2.calls := by
  obtain ⟨cs, hcs⟩ := hm run
  exact ⟨cs, hcs.calls.symm⟩

/-! ## Single steps -/

theorem Silent.recorded {m : (σ : Type) → Resolve σ α} (hm : Silent m) (h : Handler σ) :
    Recorded h (m σ) := by
  intro run
  have hsame := hm.same run
  refine ⟨[], ?_, ?_⟩
  · rw [hsame.calls, List.append_nil]
  · rw [Run.states, Run.states, hsame.game, hsame.player]
    exact .nil _

theorem recorded_applyBasic (h : Handler σ) (b : Basic) : Recorded h (applyBasic h b) := by
  intro run
  have hdoes := Handler.Does.applied (h := h) b run.game run.player
  rw [exec_applyBasic]
  generalize h.applyBasic b run.game run.player = outcome at hdoes ⊢
  obtain ⟨_ | _, game, player⟩ := outcome <;> exact ⟨_, rfl, hdoes.plays⟩

theorem recorded_makeChoice (h : Handler σ) (c : Choice) : Recorded h (makeChoice h c) := by
  intro run
  have hdoes := Handler.Does.asked (h := h) c run.game run.player
  rw [exec_makeChoice]
  generalize h.makeChoice c run.player = outcome at hdoes ⊢
  obtain ⟨_ | _, player⟩ := outcome <;> exact ⟨_, rfl, hdoes.plays⟩

end Resolve

open Resolve

/-! ## Whole resolutions -/

namespace Effect

variable {σ : Type}

theorem recorded_resolveAt (r : Rules) (h : Handler σ) (e : Effect) :
    Recorded h (resolveAt r h 0 e) :=
  resolveAt_related (sequential_recorded h) [] e fun x _ =>
    visitRelated_of_silent (sequential_recorded h) h h (fun hm => hm.recorded h)
      (recorded_applyBasic h) (recorded_makeChoice h) r x.1.length x.2

/-- The calls of a resolution lead from the states in the beginning to those in the end. -/
theorem plays_resolve (e : Effect) (r : Rules) (h : Handler σ) (g : GameState) (s : σ) :
    h.Plays (g, s) (e.resolve r h g s).calls
      ((e.resolve r h g s).game, (e.resolve r h g s).player) := by
  obtain ⟨cs, hcs⟩ := recorded_resolveAt r h e (.start g s)
  have hcalls : (e.resolve r h g s).calls = cs := hcs.calls
  rw [hcalls]
  exact hcs.plays

end Effect

end CityCards
