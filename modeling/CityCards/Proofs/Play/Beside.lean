import CityCards.Proofs.Play.Silent

/-!
# Keeping a log beside the state of the handler

Where a resolution is watched, what is seen is kept beside the state of the handler, and the handler
does not look at it. So whatever is kept, and whenever it is changed, all else goes on as it would
without.

Main definitions:
* `Handler.beside`: the handler with something beside its state.
* `Resolve.Carries`: a part that keeps something beside the state does what another does without.

Results:
* `Resolve.sequential_carries`: this passes from parts to their sequence.
* `Effect.carries_watchAt`: a watched resolution, if only what is kept is changed on entering nodes.
-/

namespace CityCards

namespace Handler

variable {σ : Type}

/-- The handler with something of the kind `κ` beside its state, which it does not look at. -/
def beside (κ : Type) (h : Handler σ) : Handler (κ × σ) where
  applyBasic b g s :=
    let (answer, g, player) := h.applyBasic b g s.2
    (answer, g, s.1, player)
  makeChoice c s :=
    let (answer, player) := h.makeChoice c s.2
    (answer, s.1, player)

theorem beside_applyBasic (κ : Type) (h : Handler σ) (b : Basic) (g : GameState) (s : κ × σ) :
    (h.beside κ).applyBasic b g s =
      match h.applyBasic b g s.2 with
      | (answer, g, player) => (answer, g, s.1, player) := rfl

theorem beside_makeChoice (κ : Type) (h : Handler σ) (c : Choice) (s : κ × σ) :
    (h.beside κ).makeChoice c s =
      match h.makeChoice c s.2 with
      | (answer, player) => (answer, s.1, player) := rfl

end Handler

namespace Run

variable {κ σ : Type}

/-- The run without what is kept beside the state of the handler. -/
def alone (run : Run (κ × σ)) : Run σ := run.withPlayer run.player.2

@[simp] theorem alone_game (run : Run (κ × σ)) : run.alone.game = run.game := rfl

@[simp] theorem alone_player (run : Run (κ × σ)) : run.alone.player = run.player.2 := rfl

end Run

/-- The resolution without what is kept beside the state of the handler. -/
def Resolution.alone {κ σ : Type} (res : Resolution (κ × σ)) : Resolution σ :=
  { res with player := res.player.2 }

namespace Resolve

variable {κ σ α β : Type}

/-- The first part keeps something beside the state of the handler, and does otherwise what the
second does. -/
def Carries (κ : Type) (α : Type) (m : Resolve (κ × σ) α) (n : Resolve σ α) : Prop :=
  ∀ run, exec n run.alone = ((exec m run).1, (exec m run).2.alone)

theorem carries_bind {m : Resolve (κ × σ) α} {n : Resolve σ α} {f : α → Resolve (κ × σ) β}
    {g : α → Resolve σ β} (hm : Carries κ α m n) (hf : ∀ a, Carries κ β (f a) (g a)) :
    Carries κ β (m >>= f) (n >>= g) := by
  intro run
  rw [exec_bind, exec_bind, hm run]
  generalize exec m run = outcome
  obtain ⟨_ | a, run'⟩ := outcome
  · rfl
  · exact hf a run'

theorem sequential_carries : Sequential (Carries (σ := σ) κ) := ⟨fun _ _ => rfl, carries_bind⟩

theorem Silent.carries {m : (σ : Type) → Resolve σ α} (hm : Silent m) (κ σ : Type) :
    Carries κ α (m (κ × σ)) (m σ) := by
  intro run
  have hplayer := (hm.same run).player
  rw [Run.alone, hm.blind run run.player.2, Run.alone, hplayer]

theorem carries_applyBasic (h : Handler σ) (b : Basic) :
    Carries κ Unit (applyBasic (h.beside κ) b) (applyBasic h b) := by
  intro run
  rw [exec_applyBasic, exec_applyBasic, Handler.beside_applyBasic, Run.alone_game, Run.alone_player]
  rcases h.applyBasic b run.game run.player.2 with ⟨_ | _, game, player⟩ <;> rfl

theorem carries_makeChoice (h : Handler σ) (c : Choice) :
    Carries κ (List Nat) (makeChoice (h.beside κ) c) (makeChoice h c) := by
  intro run
  rw [exec_makeChoice, exec_makeChoice, Handler.beside_makeChoice, Run.alone_player]
  rcases h.makeChoice c run.player.2 with ⟨_ | _, player⟩ <;> rfl

end Resolve

namespace Effect

open Resolve

/-- If nothing but what is kept is changed when nodes are entered, then a tree that is watched so is
otherwise resolved as it is. -/
theorem carries_watchAt {κ σ : Type} {enter : Place → Resolve (κ × σ) Unit}
    (henter : ∀ p, Carries κ Unit (enter p) (pure ())) (r : Rules) (h : Handler σ) (e : Effect) :
    Carries κ Unit (watchAt enter r (h.beside κ) [] e) (resolveAt r h 0 e) := by
  rw [← List.length_nil (α := Segment), ← watchAt_pure]
  exact watchAt_related sequential_carries [] e fun x _ => ⟨henter x.1,
    visitRelated_of_silent sequential_carries (h.beside κ) h (fun hm => hm.carries κ σ)
      (carries_applyBasic h) (carries_makeChoice h) r x.1.length x.2⟩

end Effect

end CityCards
