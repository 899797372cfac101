import CityCards.Play.Scripted
import CityCards.Proofs.Chance.Limit
import CityCards.Proofs.Play.Recorded

/-!
# Playing again from the record

What was chosen in a resolution stands in the record of its calls, however the choices were
answered. If the same tree is resolved again from the same states, and choices are answered with the
recorded selections one after the other, then the same happens again, up to the same end or the same
error, and just these selections are used up. So a game whose choices were left to chance is played
again without the generator.

The selections that a part of the resolution has recorded are followed by those of the parts after
it. So what is shown of a part is that it uses up its own selections and leaves whatever comes after
them, and in this form it passes from parts to their sequence.

Main definitions:
* `Table`: what a handler does apart from answering choices.
* `Call.selections`: the selections that calls have recorded.
* `Resolve.Replays`: a part that does the same if it is played again from the record.

Results:
* `Effect.replays_resolveAt`: resolving a tree is such a part.
* `Table.endless_of_refused`: a random answer to a choice is missing only if its draw does not end.
* `Effect.resolve_replayed`: what that means for a resolution whose choices are left to chance.
-/

namespace CityCards

/-! ## Tables -/

/-- All that a handler does but answer choices: how basic effects are applied, and how it is noted
what was chosen. Choices are answered by something else, which it does not see. -/
structure Table (σ : Type) where
  applyBasic : Basic → GameState → σ → Except String Unit × GameState × σ
  noteChoice : Choice → List Nat → σ → σ

namespace Table

variable {σ : Type}

/-- The handler that answers all choices with the picks beside the state of the table. -/
def handler (t : Table σ) : Handler (Picks × σ) where
  applyBasic b g s :=
    let (answer, g, own) := t.applyBasic b g s.2
    (answer, g, s.1, own)
  makeChoice c s :=
    match s.1.answer c with
    | (.ok is, picks) => (.ok is, picks, t.noteChoice c is s.2)
    | (.error m, picks) => (.error m, picks, s.2)

theorem handler_applyBasic (t : Table σ) (b : Basic) (g : GameState) (s : Picks × σ) :
    t.handler.applyBasic b g s =
      match t.applyBasic b g s.2 with
      | (answer, g, own) => (answer, g, s.1, own) := rfl

theorem handler_makeChoice (t : Table σ) (c : Choice) (s : Picks × σ) :
    t.handler.makeChoice c s =
      match s.1.answer c with
      | (.ok is, picks) => (.ok is, picks, t.noteChoice c is s.2)
      | (.error m, picks) => (.error m, picks, s.2) := rfl

end Table

/-! ## The record of selections -/

namespace Call

/-- The selections that the calls have recorded, in order. -/
def selections (cs : List Call) : List (List Nat) :=
  cs.filterMap fun c => c.selection?.map Prod.snd

theorem selections_append (cs ds : List Call) :
    selections (cs ++ ds) = selections cs ++ selections ds := List.filterMap_append

end Call

/-- The run with choices answered from a list. -/
def Run.dealt {σ : Type} (run : Run (Picks × σ)) (selections : List (List Nat)) :
    Run (Picks × σ) := run.withPlayer (.listed selections, run.player.2)

/-! ## Parts that are played again -/

namespace Resolve

variable {σ α β : Type}

/-- What becomes of a part from this run, which makes the calls `cs`, if it is played again. -/
inductive Replay (m : Resolve (Picks × σ) α) (run : Run (Picks × σ)) (cs : List Call) : Prop where
  /-- The part has ended with a choice that was not answered, so there is nothing to play. -/
  | refused (before : List Call) (c : Choice) (reason : String) (err : ResolveError)
    (hcs : cs = before ++ [.asked c (.error reason)]) (herr : (exec m run).1 = .error err)
  /-- Every choice has left a selection. With these the part does the same, and leaves those that
  come after them. -/
  | again (hlength : (Call.selections cs).length = cs.countP Call.isAsked)
    (hsame : ∀ rest, exec m (run.dealt (Call.selections cs ++ rest)) =
      ((exec m run).1, (exec m run).2.dealt rest))

/-- The part does the same if it is played again from the record of its calls. -/
def Replays (m : Resolve (Picks × σ) α) : Prop :=
  ∀ run, ∃ cs, (exec m run).2.calls = run.calls ++ cs ∧ Replay m run cs

theorem replays_bind {m : Resolve (Picks × σ) α} {f : α → Resolve (Picks × σ) β}
    (hm : Replays m) (hf : ∀ a, Replays (f a)) : Replays (m >>= f) := by
  intro run
  obtain ⟨cs, hcs, hfirst⟩ := hm run
  have hbind := exec_bind m f
  generalize houtcome : exec m run = outcome at hcs
  obtain ⟨err | a, run'⟩ := outcome
  · have hrun : exec (m >>= f) run = (.error err, run') := by rw [hbind, houtcome]
    refine ⟨cs, by rw [hrun, hcs], ?_⟩
    cases hfirst with
    | refused before c reason err' hcs' herr =>
      exact .refused before c reason err hcs' (by rw [hrun])
    | again hlength hsame =>
      refine .again hlength fun rest => ?_
      rw [hrun, hbind, hsame rest, houtcome]
  · have hrun : exec (m >>= f) run = exec (f a) run' := by rw [hbind, houtcome]
    obtain ⟨ds, hds, hnext⟩ := hf a run'
    refine ⟨cs ++ ds, by rw [hrun, hds, hcs, List.append_assoc], ?_⟩
    cases hfirst with
    | refused before c reason err hcs' herr =>
      rw [houtcome] at herr
      cases herr
    | again hlength hsame =>
      cases hnext with
      | refused before c reason err hds' herr =>
        refine .refused (cs ++ before) c reason err ?_ (by rw [hrun, herr])
        rw [hds', List.append_assoc]
      | again hlength' hsame' =>
        refine .again ?_ fun rest => ?_
        · rw [Call.selections_append, List.length_append, hlength, hlength', List.countP_append]
        · rw [hrun, hbind, Call.selections_append, List.append_assoc, hsame, houtcome]
          exact hsame' rest

theorem replays_pure (a : α) : Replays (σ := σ) (pure a) :=
  fun _ => ⟨[], (List.append_nil _).symm, .again rfl fun _ => rfl⟩

theorem sequential_replays :
    Sequential (fun _ (m : Resolve (Picks × σ) _) (_ : Resolve (Picks × σ) _) => Replays m) :=
  ⟨replays_pure, replays_bind⟩

theorem Silent.replays {m : (σ : Type) → Resolve σ α} (hm : Silent m) (σ : Type) :
    Replays (m (Picks × σ)) := by
  intro run
  have hsame := hm.same run
  refine ⟨[], by rw [hsame.calls, List.append_nil], .again rfl fun rest => ?_⟩
  change exec _ (run.withPlayer (Picks.listed rest, run.player.2)) = _
  rw [hm.blind run, Run.dealt, hsame.player]

theorem replays_applyBasic (t : Table σ) (b : Basic) : Replays (applyBasic t.handler b) := by
  intro run
  refine ⟨[.applied b run.game (t.applyBasic b run.game run.player.2).1], ?_,
    .again rfl fun rest => ?_⟩
  · rw [exec_applyBasic, Table.handler_applyBasic]
    rcases t.applyBasic b run.game run.player.2 with ⟨_ | _, game, own⟩ <;> rfl
  · have hgame : (run.dealt rest).game = run.game := rfl
    have hplayer : (run.dealt rest).player = (.listed rest, run.player.2) := rfl
    change exec _ (run.dealt rest) = _
    rw [exec_applyBasic, exec_applyBasic, Table.handler_applyBasic, Table.handler_applyBasic, hgame,
      hplayer]
    rcases t.applyBasic b run.game run.player.2 with ⟨_ | _, game, own⟩ <;> rfl

theorem replays_makeChoice (t : Table σ) (c : Choice) : Replays (makeChoice t.handler c) := by
  intro run
  have hrun := exec_makeChoice t.handler c run
  rw [Table.handler_makeChoice] at hrun
  rcases hanswer : run.player.1.answer c with ⟨reason | is, picks⟩ <;> rw [hanswer] at hrun
  · exact ⟨[.asked c (.error reason)], by rw [hrun],
      .refused [] c reason (.handler reason) rfl (by rw [hrun])⟩
  · -- The list starts with the selection that was made, and this one is taken from it.
    refine ⟨[.asked c (.ok is)], by rw [hrun], .again rfl fun rest => ?_⟩
    have hplayer : (run.dealt (is :: rest)).player = (.listed (is :: rest), run.player.2) := rfl
    change exec _ (run.dealt (is :: rest)) = _
    rw [hrun, exec_makeChoice, Table.handler_makeChoice, hplayer]
    rfl

end Resolve

open Resolve

/-! ## Random answers -/

namespace Table

variable {σ : Type} {t : Table σ} {x y : GameState × Picks × σ} {c : Call} {cs : List Call}

/-- Choices go on to be left to a generator. -/
theorem random_of_does (hc : t.handler.Does x c y) {g : Generator} (hx : x.2.1 = .random g) :
    ∃ g', y.2.1 = .random g' := by
  cases hc with
  | applied b game s => exact ⟨g, hx⟩
  | asked c game s =>
    rw [handler_makeChoice, show s.1 = .random g from hx, Picks.answer]
    cases g.draw c.choose with
    | none => exact ⟨g, rfl⟩
    | some drawn => exact ⟨drawn.2, rfl⟩

theorem random_of_plays (hcs : t.handler.Plays x cs y) {g : Generator} (hx : x.2.1 = .random g) :
    ∃ g', y.2.1 = .random g' := by
  induction hcs generalizing g with
  | nil x => exact ⟨g, hx⟩
  | cons head tail ih =>
    obtain ⟨g', hg'⟩ := random_of_does head hx
    exact ih hg'

/-- A random answer to a choice is missing only if its draw does not end. -/
theorem endless_of_refused {choice : Choice} {m : String}
    (hc : t.handler.Does x (.asked choice (.error m)) y) {g : Generator}
    (hx : x.2.1 = .random g) : g.Endless choice.choose := by
  obtain ⟨game, picks, own⟩ := x
  obtain rfl : picks = .random g := hx
  generalize hcall : Call.asked choice (.error m) = call at hc
  cases hc with
  | applied b game s => cases hcall
  | asked choice' game s =>
    obtain ⟨rfl, hanswer⟩ := Call.asked.inj hcall
    rw [handler_makeChoice, Picks.answer] at hanswer
    cases hdraw : g.draw choice.choose with
    | none => exact (Generator.draw_eq_none_iff choice.settled_choose g).mp hdraw
    | some drawn =>
      rw [hdraw] at hanswer
      cases hanswer

end Table

/-! ## Whole resolutions -/

namespace Effect

variable {σ : Type} (e : Effect) (r : Rules) (t : Table σ) (g : GameState)

theorem replays_resolveAt : Replays (resolveAt r t.handler 0 e) :=
  resolveAt_related sequential_replays [] e fun x _ =>
    visitRelated_of_silent sequential_replays t.handler t.handler (fun hm => hm.replays σ)
      (replays_applyBasic t) (replays_makeChoice t) r x.1.length x.2

/-- A resolution whose choices are left to chance either comes, with its last call, to a draw that
does not end, or it has recorded a selection for every choice. If the choices are then answered with
these selections, one after the other, the tree is resolved from the same states with the same
result, by the same calls, and to the same states of the city and of the table, also if the result
is an error. All of the selections are used up, and none that come after them. -/
theorem resolve_replayed (generator : Generator) (s : σ) :
    let res := e.resolve r t.handler g (.random generator, s)
    (∃ before c answer x stuck, res.calls = before ++ [.asked c answer] ∧
      t.handler.Plays (g, .random generator, s) before x ∧ x.2.1 = .random stuck ∧
      stuck.Endless c.choose) ∨
    ((Call.selections res.calls).length = res.calls.countP Call.isAsked ∧
      ∀ rest, e.resolve r t.handler g (.listed (Call.selections res.calls ++ rest), s) =
        { res with player := (.listed rest, res.player.2) }) := by
  intro res
  have hplays : t.handler.Plays (g, .random generator, s) res.calls (res.game, res.player) :=
    plays_resolve e r t.handler g (.random generator, s)
  obtain ⟨cs, hcs, hreplay⟩ := replays_resolveAt e r t (.start g (.random generator, s))
  obtain rfl : res.calls = cs := hcs
  cases hreplay with
  | refused before c reason err hcalls herr =>
    rw [hcalls] at hplays
    obtain ⟨x, hbefore, hlast⟩ := hplays.split
    obtain ⟨stuck, hstuck⟩ := Table.random_of_plays hbefore rfl
    cases hlast with
    | cons head tail =>
      exact Or.inl ⟨before, c, _, x, stuck, hcalls, hbefore, hstuck,
        Table.endless_of_refused head hstuck⟩
  | again hlength hsame =>
    refine Or.inr ⟨hlength, fun rest => ?_⟩
    have hagain : exec (resolveAt r t.handler 0 e)
        (.start g (.listed (Call.selections res.calls ++ rest), s)) = _ := hsame rest
    rw [resolve_eq, hagain]
    rfl

end Effect

end CityCards
