import CityCards.Proofs.Chance.Limit
import CityCards.Proofs.Chance.Picks
import CityCards.Proofs.Play.Counting

/-!
# Why resolutions end early

Every error of a resolution has one of few causes: something in the tree that strict settings do not
let pass, a node below the limit of depth, what the handler did last, or a number that is counted
and that is greater than all words. If none of these can be, because anomalies are only noted, there
is no limit, the handler plays as it should, and numbers that are too great do not stop the program,
then every tree is resolved to its end, be it well formed or not.

Such numbers are within reach: two loops that do nothing are enough, if they are long enough.

A handler that leaves choices to chance plays as it should as long as its draws come to an end.

Main definitions:
* `Effect.conditions`, `Effect.targets`: what a tree asks, and what it counts.
* `ResolveError.CausedIn`: the cause of an error.
* `Call.IsProper`: a call that has not failed, and has chosen only options that there are.
* `Handler.IsObliging`: a handler all of whose calls are proper.
* `Handler.LeavesToChance`: a handler that answers choices with random selections.

Results:
* `Effect.causedIn_resolve`: every error has its cause.
* `Effect.exists_report`: under lenient rules, a last call that is proper does not end a resolution.
* `Effect.resolve_caused`: what that means for obliging handlers, and for those that leave choices
  to chance.
* `Effect.resolve_caused_overflow`: an obliging handler, and no report.
-/

namespace CityCards

/-! ## What may be to blame -/

namespace Effect

/-- The conditions of the root. -/
def rootConditions : Effect → List Condition
  | .conditional c _ _ _ => [c]
  | .multi bs _ _ => bs.map Prod.fst
  | _ => []

/-- The target of the root. -/
def rootTarget? : Effect → Option String
  | .forEach t _ _ _ => some t
  | _ => none

/-- All conditions in a tree. -/
def conditions (e : Effect) : List Condition := e.walk.flatMap rootConditions

/-- All targets in a tree. -/
def targets (e : Effect) : List String := e.walk.filterMap rootTarget?

end Effect

/-- What the error is due to, in a resolution of the tree that has left the city in this state, has
made these calls and has come to these visits. -/
inductive ResolveError.CausedIn (e : Effect) (r : Rules) (g : GameState) (calls : List Call)
    (visits : List Visit) : ResolveError → Prop where
  | condition (c : Condition) (a : Anomaly) (hstrict : r.config.strict = true)
    (hc : c ∈ e.conditions) (ha : (c.outcome r.custom g).anomaly = some a) :
    CausedIn e r g calls visits (.anomaly (.condition a))
  | unknownTarget (t : String) (hstrict : r.config.strict = true) (ht : t ∈ e.targets)
    (hunknown : Tally.parse? t = none) : CausedIn e r g calls visits (.anomaly (.unknownTarget t))
  | depthExceeded (hlimit : 0 < r.config.maxDepth) (hheight : r.config.maxDepth.toNat < e.height) :
    CausedIn e r g calls visits (.depthExceeded r.config.maxDepth)
  | choiceOutOfRange (c : Choice) (is : List Nat) (i : Nat)
    (hlast : calls.getLast? = some (.asked c (.ok is))) (hi : i ∈ is)
    (hrange : c.options.length ≤ i) :
    CausedIn e r g calls visits (.choiceOutOfRange i c.options.length)
  | applied (b : Basic) (before : GameState) (m : String)
    (hlast : calls.getLast? = some (.applied b before (.error m))) :
    CausedIn e r g calls visits (.handler m)
  | asked (c : Choice) (m : String) (hlast : calls.getLast? = some (.asked c (.error m))) :
    CausedIn e r g calls visits (.handler m)
  | overflow (hstops : r.overflow = .stops) (hexceed : (Deeds.of calls visits).Exceed) :
    CausedIn e r g calls visits .overflow

/-! ## Causes of errors in single steps -/

namespace Resolve

variable {σ : Type} {visits : List Visit}

/-- The part fails only for a cause that lies in the tree, the rules or the last call, or because
the program is stopped. -/
abbrev FailsCaused {α : Type} (e : Effect) (r : Rules) (visits : List Visit) (m : Resolve σ α) :
    Prop :=
  Keeps (fun _ => True)
    (fun err run => err = .overflow ∨ err.CausedIn e r run.game run.calls visits) m

theorem failsCaused_checkDepth {e : Effect} (r : Rules) {depth : Nat} (hdepth : depth ≤ e.height) :
    FailsCaused (σ := σ) e r visits (checkDepth r depth) := by
  intro run _
  rw [exec_checkDepth]
  by_cases hd : r.config.allowsDepth depth = true
  · rw [if_pos hd]
    trivial
  · rw [if_neg hd]
    rw [ResolverConfig.allowsDepth_iff, not_or, Nat.not_le] at hd
    exact .inr (.depthExceeded (UInt32.pos_iff_ne_zero.mpr hd.1) (Nat.lt_of_lt_of_le hd.2 hdepth))

theorem failsCaused_test {e : Effect} (r : Rules) {c : Condition} (hc : c ∈ e.conditions) :
    FailsCaused (σ := σ) e r visits (test r c) := by
  intro run _
  rw [exec_test]
  cases ha : (c.outcome r.custom run.game).anomaly with
  | none => trivial
  | some a =>
    by_cases hs : r.config.strict = true
    · simp only [if_pos hs]
      exact .inr (.condition c a hs hc ha)
    · simp only [if_neg hs]

theorem failsCaused_tally {e : Effect} (r : Rules) {t : String} (ht : t ∈ e.targets) :
    FailsCaused (σ := σ) e r visits (tally r t) := by
  intro run _
  rw [exec_tally]
  cases hunknown : Tally.parse? t with
  | some known => trivial
  | none =>
    by_cases hs : r.config.strict = true
    · simp only [if_pos hs]
      exact .inr (.unknownTarget t hs ht hunknown)
    · simp only [if_neg hs]

theorem failsCaused_applyBasic (e : Effect) (r : Rules) (h : Handler σ) (b : Basic) :
    FailsCaused e r visits (applyBasic h b) := by
  intro run _
  rw [exec_applyBasic]
  rcases h.applyBasic b run.game run.player with ⟨m | _, game, player⟩
  · exact .inr (.applied b run.game m List.getLast?_concat)
  · trivial

theorem failsCaused_count (e : Effect) (r : Rules) (entry : Report) :
    FailsCaused (σ := σ) e r visits (count r entry) := by
  intro run _
  rw [exec_count]
  by_cases hover : run.report.Overflows r.overflow entry
  · rw [if_pos hover]
    exact .inl rfl
  · rw [if_neg hover]
    trivial

theorem failsCaused_choose (e : Effect) (r : Rules) (h : Handler σ) (c : Choice) :
    FailsCaused e r visits (choose r h c) := by
  -- Between call and selection the choice is counted, which leaves it the last call.
  have hasked : Leads (fun _ => True) (makeChoice h c)
      (fun is run => run.calls.getLast? = some (.asked c (.ok is)))
      (fun err run => err = .overflow ∨ err.CausedIn e r run.game run.calls visits) := by
    intro run _
    rw [exec_makeChoice]
    rcases h.makeChoice c run.player with ⟨m | is, player⟩
    · exact .inr (.asked c m List.getLast?_concat)
    · exact List.getLast?_concat
  refine leads_bind hasked fun is => leads_bind (Q := fun _ run =>
    run.calls.getLast? = some (.asked c (.ok is))) (fun run hlast => ?_) fun _ run hlast => ?_
  · rw [exec_count]
    by_cases hover : run.report.Overflows r.overflow .chosen
    · rw [if_pos hover]
      exact .inl rfl
    · rw [if_neg hover]
      exact hlast
  · cases hselect : select (List.finRange c.options.length) is with
    | ok ps => trivial
    | error err =>
      obtain ⟨i, hi, hrange, rfl⟩ := exists_of_select_eq_error hselect
      rw [List.length_finRange] at hrange ⊢
      exact .inr (.choiceOutOfRange c is i hlast hi hrange)

/-- What is done at a node of the tree fails only for a cause. -/
theorem visit_failsCaused {e : Effect} (r : Rules) (h : Handler σ) {x : Place × Effect}
    (hx : x ∈ e.nodes) :
    VisitRelated (fun _ m (_ : Resolve σ _) => FailsCaused e r visits m) r r h h x.1.length
      x.2 := by
  obtain ⟨p, node⟩ := x
  have hnode : node ∈ e.walk := Effect.snd_mem_walk hx
  refine ⟨failsCaused_checkDepth r (Effect.length_le_height hx),
    fun entry _ => failsCaused_count e r entry, ?_⟩
  cases node with
  | basic b => exact failsCaused_applyBasic e r h b
  | conditional c t f m =>
    exact failsCaused_test r (List.mem_flatMap.mpr ⟨_, hnode, List.mem_singleton.mpr rfl⟩)
  | multi bs d m =>
    exact fun b hb =>
      failsCaused_test r (List.mem_flatMap.mpr ⟨_, hnode, List.mem_map_of_mem hb⟩)
  | choice d lo hi os m => exact failsCaused_choose e r h ⟨d, lo, hi, os, m⟩
  | forEach t b d m =>
    exact failsCaused_tally r (List.mem_filterMap.mpr ⟨_, hnode, rfl⟩)
  | composite es d m => trivial

end Resolve

open Resolve

/-! ## Calls without fault -/

/-- The call has not failed, and if it was a choice, only options that there are were chosen. -/
def Call.IsProper : Call → Prop
  | .applied _ _ answer => answer = .ok ()
  | .asked c answer => ∃ is, answer = .ok is ∧ ∀ i ∈ is, i < c.options.length

namespace Handler

variable {σ : Type}

/-- The handler never fails, and chooses only options that there are. -/
structure IsObliging (h : Handler σ) : Prop where
  applies : ∀ b g s, (h.applyBasic b g s).1 = .ok ()
  chooses : ∀ c s, ∃ is, (h.makeChoice c s).1 = .ok is ∧ ∀ i ∈ is, i < c.options.length

/-- The handler never fails to apply an effect, and answers every choice with a random selection,
drawn from a generator that is part of its state. -/
structure LeavesToChance (h : Handler σ) (generator : σ → Generator) : Prop where
  applies : ∀ b g s, (h.applyBasic b g s).1 = .ok ()
  chooses : ∀ c s is rest, (generator s).draw c.choose = some (is, rest) →
    (h.makeChoice c s).1 = .ok is

/-- The handler that chooses all options in order, and has no effect change anything. -/
def thorough : Handler Unit where
  applyBasic _ g s := (.ok (), g, s)
  makeChoice c s := (.ok (List.range c.options.length), s)

/-- The handler that applies effects as another one does, and leaves choices to a generator beside
the state of this one. -/
def random (h : Handler σ) : Handler (Generator × σ) where
  applyBasic b g s :=
    let (answer, g, player) := h.applyBasic b g s.2
    (answer, g, s.1, player)
  makeChoice c s :=
    match s.1.draw c.choose with
    | some (is, generator) => (.ok is, generator, s.2)
    | none => (.error "no selection was drawn", s)

theorem isObliging_thorough : thorough.IsObliging where
  applies _ _ _ := rfl
  chooses _ _ := ⟨_, rfl, fun _ => List.mem_range.mp⟩

variable {h : Handler σ} {x y : GameState × σ} {call : Call}

theorem leavesToChance_random (happlies : ∀ b g s, (h.applyBasic b g s).1 = .ok ()) :
    h.random.LeavesToChance Prod.fst where
  applies b g s := happlies b g s.2
  chooses c s is rest hdraw := by
    rw [random]
    dsimp only
    rw [hdraw]

theorem IsObliging.isProper (hh : h.IsObliging) (hcall : h.Does x call y) : call.IsProper := by
  cases hcall with
  | applied b g s => exact hh.applies b g s
  | asked c g s => exact hh.chooses c s

/-- Where choices are left to chance, a call is proper unless a draw does not end. -/
theorem LeavesToChance.isProper_or {generator : σ → Generator} (hh : h.LeavesToChance generator)
    (hcall : h.Does x call y) :
    call.IsProper ∨ ∃ c answer, call = .asked c answer ∧ (generator x.2).Endless c.choose := by
  cases hcall with
  | applied b g s => exact Or.inl (hh.applies b g s)
  | asked c g s =>
    cases hdraw : (generator s).draw c.choose with
    | none => exact Or.inr ⟨c, _, rfl, (Generator.draw_eq_none_iff c.settled_choose _).mp hdraw⟩
    | some result =>
      obtain ⟨is, rest⟩ := result
      exact Or.inl ⟨is, hh.chooses c s is rest hdraw, Choice.lt_of_draw hdraw⟩

end Handler

/-! ## Whole resolutions -/

namespace Effect

variable {σ : Type} (e : Effect) (r : Rules) (h : Handler σ) (g : GameState) (s : σ)

theorem causedIn_resolve {err : ResolveError} (herr : (e.resolve r h g s).result = .error err) :
    err.CausedIn e r (e.resolve r h g s).game (e.resolve r h g s).calls (e.visits r h g s) := by
  have hfails : FailsCaused e r (e.visits r h g s) (resolveAt r h 0 e) :=
    resolveAt_related (sequential_keeps _ _) [] e fun x hx => visit_failsCaused r h hx
  have herror := Resolution.ofOutcome_result_eq_error_iff.mp herr
  obtain rfl | hcaused := hfails.exec_of_error trivial herror
  · obtain ⟨hstops, hexceed⟩ := exceed_of_overflow herr
    exact .overflow hstops hexceed
  · exact hcaused

variable {e r h g s}

/-- Under lenient rules without a limit, only the last call can end a resolution, or a number that
is too great. -/
theorem exists_report (hstrict : r.config.strict = false) (hdepth : r.config.maxDepth = 0)
    (hfits : ¬(r.overflow = .stops ∧
      (Deeds.of (e.resolve r h g s).calls (e.visits r h g s)).Exceed))
    (hlast : ∀ call ∈ (e.resolve r h g s).calls.getLast?, call.IsProper) :
    ∃ report, (e.resolve r h g s).result = .ok report := by
  cases hresult : (e.resolve r h g s).result with
  | ok report => exact ⟨report, rfl⟩
  | error err =>
    exfalso
    cases e.causedIn_resolve r h g s hresult with
    | condition c a hs => simp [hstrict] at hs
    | unknownTarget t hs => simp [hstrict] at hs
    | depthExceeded hlimit => simp [hdepth] at hlimit
    | choiceOutOfRange c is i hcall hi hrange =>
      obtain ⟨is', hok, hlt⟩ := hlast _ hcall
      cases hok
      exact absurd (hlt i hi) (Nat.not_lt_of_le hrange)
    | applied b before m hcall => cases hlast _ hcall
    | asked c m hcall =>
      obtain ⟨_, hok, -⟩ := hlast _ hcall
      cases hok
    | overflow hstops hexceed => exact hfits ⟨hstops, hexceed⟩

/-- The last call of a resolution is one that the handler makes after the calls before. -/
theorem exists_does_of_getLast? {call : Call}
    (hlast : call ∈ (e.resolve r h g s).calls.getLast?) :
    ∃ before x y, (e.resolve r h g s).calls = before ++ [call] ∧ h.Plays (g, s) before x ∧
      h.Does x call y := by
  obtain ⟨before, hcalls⟩ := List.getLast?_eq_some_iff.mp hlast
  have hplays := plays_resolve e r h g s
  rw [hcalls] at hplays
  obtain ⟨x, hbefore, hcall⟩ := hplays.split
  cases hcall with
  | cons head tail => exact ⟨before, x, _, hcalls, hbefore, head⟩

variable (e r h g s)

/-- Every error has its cause. So under lenient rules without a limit of depth, every tree, be it
well formed or not, is resolved to its end by a handler that never fails and chooses only options
that there are, except if the program is stopped because of something that there is more of than
words can say. Where choices are left to chance, the resolution comes to its end as well, or else to
a draw that has none. -/
theorem resolve_caused :
    (∀ err, (e.resolve r h g s).result = .error err →
      err.CausedIn e r (e.resolve r h g s).game (e.resolve r h g s).calls (e.visits r h g s)) ∧
    (r.config.strict = false → r.config.maxDepth = 0 →
      (h.IsObliging → ((∃ report, (e.resolve r h g s).result = .ok report) ↔
        ¬(r.overflow = .stops ∧
          (Deeds.of (e.resolve r h g s).calls (e.visits r h g s)).Exceed))) ∧
      ∀ generator, h.LeavesToChance generator →
        ¬(r.overflow = .stops ∧
          (Deeds.of (e.resolve r h g s).calls (e.visits r h g s)).Exceed) →
        (∃ report, (e.resolve r h g s).result = .ok report) ∨
        ∃ before c answer x, (e.resolve r h g s).calls = before ++ [.asked c answer] ∧
          h.Plays (g, s) before x ∧ (generator x.2).Endless c.choose) := by
  refine ⟨fun err => e.causedIn_resolve r h g s, fun hstrict hdepth => ⟨fun hh => ?_, ?_⟩⟩
  · refine ⟨fun ⟨report, hreport⟩ ⟨hstops, hexceed⟩ => ?_, fun hfits => ?_⟩
    · exact (shows_of_report hreport).not_exceed hstops hexceed
    · refine exists_report hstrict hdepth hfits fun call hlast => ?_
      obtain ⟨_, _, _, _, _, hdoes⟩ := exists_does_of_getLast? hlast
      exact hh.isProper hdoes
  · intro generator hh hfits
    by_cases hlast : ∀ call ∈ (e.resolve r h g s).calls.getLast?, call.IsProper
    · exact Or.inl (exists_report hstrict hdepth hfits hlast)
    · simp only [not_forall] at hlast
      obtain ⟨call, hcall, himproper⟩ := hlast
      obtain ⟨before, x, y, hcalls, hbefore, hdoes⟩ := exists_does_of_getLast? hcall
      obtain ⟨c, answer, rfl, hendless⟩ := (hh.isProper_or hdoes).resolve_left himproper
      exact Or.inr ⟨before, c, answer, x, hcalls, hbefore, hendless⟩

/-- A condition without an operand, a target that no one knows, and a choice with its bounds
crossed. -/
def faultyTree : Effect := .sequence [
  .conditional (.plain .hasHope "") (.plain .heal "") none .none,
  .forEach "nada" (.plain .heal "Cura") "" .none,
  .choice "" 3 1 [.plain .heal "Cura", .plain .treat "Trata"] .none]

/-- Strictly, the tree is resolved up to its first condition, and leniently to its end, if counts
start again at zero. -/
theorem resolve_faultyTree_caused :
    ResolveError.CausedIn faultyTree ⟨.strictly, none, .stops⟩ .empty []
      (faultyTree.visits ⟨.strictly, none, .stops⟩ .thorough .empty ())
      (.anomaly (.condition (.missingOperand .hasHope .value))) ∧
    (∃ report, (faultyTree.resolve ⟨.default, none, .wraps⟩ Handler.thorough .empty ()).result =
      .ok report) ∧
    ((∃ report, (faultyTree.resolve ⟨.default, none, .wraps⟩ Handler.thorough.random .empty
        (.ofSeed 7, ())).result = .ok report) ∨
      ∃ before c answer x, (faultyTree.resolve ⟨.default, none, .wraps⟩ Handler.thorough.random
          .empty (.ofSeed 7, ())).calls = before ++ [.asked c answer] ∧
        Handler.thorough.random.Plays (.empty, .ofSeed 7, ()) before x ∧
        x.2.1.Endless c.choose) := by
  obtain ⟨hcaused, -⟩ := faultyTree.resolve_caused ⟨.strictly, none, .stops⟩ .thorough .empty ()
  obtain ⟨-, hlenient⟩ := faultyTree.resolve_caused ⟨.default, none, .wraps⟩ .thorough .empty ()
  obtain ⟨-, hrandom⟩ := faultyTree.resolve_caused ⟨.default, none, .wraps⟩ Handler.thorough.random
    .empty (.ofSeed 7, ())
  exact ⟨hcaused _ rfl, ((hlenient rfl rfl).1 Handler.isObliging_thorough).mpr nofun,
    (hrandom rfl rfl).2 Prod.fst (Handler.leavesToChance_random fun _ _ _ => rfl) nofun⟩

/-- Nothing is strict, there is no limit of depth, and the handler neither fails nor chooses
anything at all. Still the program is stopped, since there is one body more than words can say. -/
theorem resolve_caused_overflow :
    ResolverConfig.default.strict = false ∧ ResolverConfig.default.maxDepth = 0 ∧
    Handler.thorough.IsObliging ∧
    ((sequence [idleChildren, idleWorkers]).resolve ⟨.default, none, .stops⟩ Handler.thorough
      crowdedCity ()).result = .error .overflow :=
  ⟨rfl, rfl, Handler.isObliging_thorough, (resolve_idleLoops .stops _ _).2.2⟩

end Effect

end CityCards
