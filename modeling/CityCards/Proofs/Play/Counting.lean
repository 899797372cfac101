import Mathlib.Algebra.GroupWithZero.Nat
import CityCards.Proofs.Play.Depth
import CityCards.Proofs.Play.Recorded
import CityCards.Proofs.Play.Sequences
import CityCards.Proofs.Play.Visits

/-!
# What is counted

The account of a resolution says in words how many basic effects were to be applied, how many
choices were to be made, and how many bodies the targets that were visited have called for. Where
counts start again at zero, it says what is left of these numbers. Where they stop the program, it
says the numbers themselves, and the program is stopped only if one of them is greater than all
words.

Everything is counted right after it is done, and in between the account does not say what has been
done. After every node it does again. So nodes are taken as a whole here: coming to a node, what is
done there and counting it.

Main definitions:
* `Overflow.Counts`: counting in words, up to what becomes of numbers that are too great.
* `Deeds.of`: what has been done, as it is on record in calls and visits.
* `Report.Shows`: an account says what has been done.
* `Resolve.Lacks`: an account will say what has been done when something more is counted.

Results:
* `Report.Shows.add`, `Report.Shows.exceed`: what an account says when something is counted.
* `Resolve.node_keepsSettled`: after every node the account says what has been done.
* `Effect.shows_of_report`: a report says what has been done.
* `Effect.exceed_of_overflow`: the program is stopped only if too much has been done.
* `Effect.resolve_idleLoops`: two loops that do nothing can be too much.
-/

namespace CityCards

/-! ## Counting in words -/

/-- To count `n` more leads from the one word to the other. As long as it has not started again at
zero, the count is what it should be. -/
structure Overflow.Counts (o : Overflow) (n : Nat) (a b : UInt32) : Prop where
  eq_add : b = a + .ofNat n
  toNat_eq : o = .stops ∨ a.toNat + n < 2 ^ 32 → b.toNat = a.toNat + n

namespace Overflow.Counts

variable {o : Overflow} {j k : Nat} {a b c : UInt32}

theorem refl (o : Overflow) (a : UInt32) : o.Counts 0 a a := ⟨by simp, fun _ => rfl⟩

theorem trans (hab : o.Counts j a b) (hbc : o.Counts k b c) : o.Counts (j + k) a c where
  eq_add := by rw [hbc.eq_add, hab.eq_add, UInt32.ofNat_add, UInt32.add_assoc]
  toNat_eq hfits := by
    have hb : b.toNat = a.toNat + j := hab.toNat_eq (hfits.imp_right fun hlt => by omega)
    rw [hbc.toNat_eq (hfits.imp_right fun hlt => by omega), hb, Nat.add_assoc]

/-- Words are counted by adding them, unless the sum is not a word and this stops the program. -/
theorem of_add {n : UInt32} (hfits : ¬(o = .stops ∧ 2 ^ 32 ≤ a.toNat + n.toNat)) :
    o.Counts n.toNat a (a + n) where
  eq_add := by rw [UInt32.ofNat_toNat]
  toNat_eq hcase := by
    have hlt : a.toNat + n.toNat < 2 ^ 32 :=
      hcase.elim (fun ho => Nat.lt_of_not_le fun hle => hfits ⟨ho, hle⟩) id
    rw [UInt32.toNat_add, Nat.mod_eq_of_lt hlt]

end Overflow.Counts

/-! ## What has been done -/

/-- How many basic effects were to be applied, how many choices were to be made, and how many bodies
were called for. -/
structure Deeds where
  applied : Nat
  chosen : Nat
  bodies : Nat

namespace Deeds

/-- Both one and the other. -/
def add (d d' : Deeds) : Deeds :=
  ⟨d.applied + d'.applied, d.chosen + d'.chosen, d.bodies + d'.bodies⟩

/-- Of something there is more than all words can say. -/
def Exceed (d : Deeds) : Prop := 2 ^ 32 ≤ d.applied ∨ 2 ^ 32 ≤ d.chosen ∨ 2 ^ 32 ≤ d.bodies

/-- What has been done by these calls and at these visits. -/
def of (calls : List Call) (visits : List Visit) : Deeds where
  applied := calls.countP Call.isApplied
  chosen := calls.countP Call.isAsked
  bodies := (visits.filterMap Visit.count?).sum

theorem of_append_call (calls : List Call) (call : Call) (visits : List Visit) :
    of (calls ++ [call]) visits =
      (of calls visits).add ⟨call.isApplied.toNat, call.isAsked.toNat, 0⟩ := by
  cases call <;> simp [of, add, List.countP_append, Call.isApplied, Call.isAsked]

theorem of_append_visit (calls : List Call) (visits : List Visit) (v : Visit) :
    of calls (visits ++ [v]) = (of calls visits).add ⟨0, 0, v.count?.getD 0⟩ := by
  cases hcount : v.count? <;> simp [of, add, hcount]

end Deeds

namespace Report

/-- What an entry counts. -/
def deeds (entry : Report) : Deeds :=
  ⟨entry.basicApplied.toNat, entry.choicesMade.toNat, entry.iterations.toNat⟩

/-- The account says that so much has been done. -/
structure Shows (o : Overflow) (report : Report) (d : Deeds) : Prop where
  applied : o.Counts d.applied 0 report.basicApplied
  chosen : o.Counts d.chosen 0 report.choicesMade
  bodies : o.Counts d.bodies 0 report.iterations

variable {o : Overflow} {report entry : Report} {d : Deeds}

/-- What an account says does not depend on its diagnostics. -/
theorem Shows.diagnosing (h : report.Shows o d) (diagnostics : List Diagnostic) :
    { report with diagnostics }.Shows o d := ⟨h.applied, h.chosen, h.bodies⟩

/-- An entry that can be made says that what it counts has been done as well. -/
theorem Shows.add (h : report.Shows o d) (hfits : ¬report.Overflows o entry) :
    (report.add entry).Shows o (d.add entry.deeds) where
  applied := h.applied.trans (.of_add fun hover => hfits ⟨hover.1, .inl hover.2⟩)
  chosen := h.chosen.trans (.of_add fun hover => hfits ⟨hover.1, .inr (.inl hover.2)⟩)
  bodies := h.bodies.trans (.of_add fun hover => hfits ⟨hover.1, .inr (.inr hover.2)⟩)

/-- An entry that stops the program counts something that has been done too often. -/
theorem Shows.exceed (h : report.Shows o d) (hover : report.Overflows o entry) :
    (d.add entry.deeds).Exceed := by
  obtain ⟨rfl, hover⟩ := hover
  rwa [h.applied.toNat_eq (.inl rfl), h.chosen.toNat_eq (.inl rfl), h.bodies.toNat_eq (.inl rfl),
    UInt32.toNat_zero, Nat.zero_add, Nat.zero_add, Nat.zero_add] at hover

/-- Where numbers that are too great stop the program, an account says that there are none. -/
theorem Shows.not_exceed (h : report.Shows o d) (hstops : o = .stops) : ¬d.Exceed := by
  have happlied := h.applied.toNat_eq (.inl hstops)
  have hchosen := h.chosen.toNat_eq (.inl hstops)
  have hbodies := h.bodies.toNat_eq (.inl hstops)
  have h₁ := report.basicApplied.toNat_lt
  have h₂ := report.choicesMade.toNat_lt
  have h₃ := report.iterations.toNat_lt
  rw [UInt32.toNat_zero] at happlied hchosen hbodies
  rw [Deeds.Exceed]
  omega

end Report

/-! ## Nodes as a whole -/

namespace Resolve

variable {σ α : Type}

/-- The account says what has been done. -/
def Settled (o : Overflow) (run : Run (List Visit × σ)) : Prop :=
  run.report.Shows o (.of run.calls run.player.1)

/-- The account says what has been done, but for this. -/
def Lacks (o : Overflow) (due : Deeds) (run : Run (List Visit × σ)) : Prop :=
  ∃ d, run.report.Shows o d ∧ Deeds.of run.calls run.player.1 = d.add due

/-- If the program is stopped, then because too much has been done. -/
def StopsExceeding (o : Overflow) (err : ResolveError) (run : Run (List Visit × σ)) : Prop :=
  err = .overflow → o = .stops ∧ (Deeds.of run.calls run.player.1).Exceed

/-- If the account has said what has been done, then it does so after the part. -/
abbrev KeepsSettled (o : Overflow) (m : Resolve (List Visit × σ) α) : Prop :=
  Keeps (Settled o) (StopsExceeding o) m

/-- When it has been counted, the account says what it has lacked. -/
theorem leads_count (r : Rules) (entry : Report) :
    Leads (Lacks (σ := σ) r.overflow entry.deeds) (count r entry) (fun _ => Settled r.overflow)
      (StopsExceeding r.overflow) := by
  rintro run ⟨d, hshows, hdeeds⟩
  rw [exec_count]
  by_cases hover : run.report.Overflows r.overflow entry
  · rw [if_pos hover]
    intro _
    rw [hdeeds]
    exact ⟨hover.1, hshows.exceed hover⟩
  · rw [if_neg hover]
    show (run.report.add entry).Shows r.overflow (.of run.calls run.player.1)
    rw [hdeeds]
    exact hshows.add hover

theorem leads_applyBasic (o : Overflow) (h : Handler σ) (b : Basic) :
    Leads (Settled o) (applyBasic (h.beside (List Visit)) b)
      (fun _ => Lacks o Report.applied.deeds) (StopsExceeding o) := by
  intro run hrun
  rw [exec_applyBasic, Handler.beside_applyBasic]
  rcases h.applyBasic b run.game run.player.2 with ⟨_ | _, game, player⟩
  · exact nofun
  · exact ⟨_, hrun, Deeds.of_append_call run.calls _ run.player.1⟩

theorem leads_makeChoice (o : Overflow) (h : Handler σ) (c : Choice) :
    Leads (Settled o) (makeChoice (h.beside (List Visit)) c)
      (fun _ => Lacks o Report.chosen.deeds) (StopsExceeding o) := by
  intro run hrun
  rw [exec_makeChoice, Handler.beside_makeChoice]
  rcases h.makeChoice c run.player.2 with ⟨_ | is, player⟩
  · exact nofun
  · exact ⟨_, hrun, Deeds.of_append_call run.calls _ run.player.1⟩

/-- When a target has been read, what it counts is called for and not yet counted. -/
theorem leads_tally (r : Rules) (target : String) :
    Leads (fun run : Run (List Visit × σ) =>
        Lacks r.overflow ⟨0, 0, Tally.countOf target run.game⟩ run)
      (tally r target) (fun n => Lacks r.overflow (Report.repeating n).deeds)
      (StopsExceeding r.overflow) := by
  intro run hrun
  rw [exec_tally]
  rw [Tally.countOf] at hrun
  cases htarget : Tally.parse? target with
  | some t =>
    rw [htarget] at hrun
    exact hrun
  | none =>
    rw [htarget] at hrun
    obtain ⟨d, hshows, hdeeds⟩ := hrun
    by_cases hs : r.config.strict = true
    · simp only [if_pos hs]
      exact nofun
    · simp only [if_neg hs]
      exact ⟨d, hshows.diagnosing _, hdeeds⟩

theorem keepsSettled_pure (o : Overflow) (a : α) : KeepsSettled (σ := σ) o (pure a) := keeps_pure a

theorem keepsSettled_test (r : Rules) (c : Condition) :
    KeepsSettled (σ := σ) r.overflow (test r c) := by
  intro run hrun
  rw [exec_test]
  cases (c.outcome r.custom run.game).anomaly with
  | none => exact hrun
  | some a =>
    by_cases hs : r.config.strict = true
    · simp only [if_pos hs]
      exact nofun
    · simp only [if_neg hs]
      exact hrun.diagnosing _

/-- Coming to a node, a body that is called for there is not yet counted. -/
theorem leads_entering {root n : Effect} {p : Place} (hat : root.at? p = some n) (r : Rules)
    {P : Run (List Visit × σ) → Prop} {step : Resolve (List Visit × σ) α}
    {Q : α → Run (List Visit × σ) → Prop} (hstep : Leads P step Q (StopsExceeding r.overflow))
    (hP : ∀ run : Run (List Visit × σ),
      Lacks r.overflow ⟨0, 0, (Visit.count? ⟨p, n, run.game⟩).getD 0⟩ run → P run) :
    Leads (Settled r.overflow) (entering (visit root r) r p step) Q
      (StopsExceeding r.overflow) := by
  intro run hrun
  rw [entering, exec_visit hat]
  by_cases hdepth : r.config.allowsDepth p.length = true
  · rw [if_pos hdepth]
    exact hstep _ (hP _ ⟨_, hrun, Deeds.of_append_visit run.calls run.player.1 _⟩)
  · rw [if_neg hdepth]
    intro hover
    cases hover

/-- After a node of the tree the account says what has been done. -/
theorem node_keepsSettled {root : Effect} (r : Rules) (h : Handler σ) {x : Place × Effect}
    (hx : x ∈ root.nodes) :
    NodeRelated (fun _ m (_ : Resolve (List Visit × σ) _) => KeepsSettled r.overflow m)
      (visit root r) (visit root r) r r (h.beside (List Visit)) (h.beside (List Visit))
      x.1 x.2 := by
  obtain ⟨p, n⟩ := x
  have hat := Effect.mem_nodes_iff.mp hx
  -- At nodes that call for no bodies nothing is missing.
  have hsettled (run : Run (List Visit × σ)) (hrun : Lacks r.overflow ⟨0, 0, 0⟩ run) :
      Settled r.overflow run := by
    obtain ⟨d, hshows, hdeeds⟩ := hrun
    rwa [Settled, hdeeds]
  cases n with
  | basic b =>
    exact leads_entering hat r (leads_bind (leads_applyBasic r.overflow h b) fun _ =>
      leads_count r .applied) hsettled
  | conditional c t f m => exact leads_entering hat r (keepsSettled_test r c) hsettled
  | multi bs d m =>
    exact ⟨leads_entering hat r (keepsSettled_pure _ ()) hsettled,
      fun b _ => keepsSettled_test r b.1⟩
  | choice d lo hi os m =>
    refine leads_entering hat r (leads_bind (leads_makeChoice r.overflow h _) fun is =>
      leads_bind (leads_count r .chosen) fun _ => ?_) hsettled
    cases hselect : select (List.finRange os.length) is with
    | ok ps => exact keepsSettled_pure _ ps
    | error err =>
      obtain ⟨i, -, -, rfl⟩ := exists_of_select_eq_error hselect
      exact fun _ _ => nofun
  | forEach t b d m =>
    exact leads_entering hat r (leads_bind (leads_tally r t) fun n =>
      leads_bind (leads_count r (.repeating n)) fun _ => keepsSettled_pure _ n) fun _ hrun => hrun
  | composite es d m => exact leads_entering hat r (keepsSettled_pure _ ()) hsettled

end Resolve

/-! ## Whole resolutions -/

namespace Effect

open Resolve

variable {σ : Type} {e : Effect} {r : Rules} {h : Handler σ} {g : GameState} {s : σ}

theorem keepsSettled_watchAt (e : Effect) (r : Rules) (h : Handler σ) :
    KeepsSettled r.overflow (watchAt (visit e r) r (h.beside (List Visit)) [] e) :=
  watchAt_related_nodes (sequential_keeps _ _) [] e fun _ hx => node_keepsSettled r h hx

theorem settled_start (o : Overflow) (g : GameState) (s : σ) :
    Settled o (Run.start g (([] : List Visit), s)) :=
  ⟨.refl o 0, .refl o 0, .refl o 0⟩

/-- A report says what has been done. -/
theorem shows_of_report {report : Report} (hreport : (e.resolve r h g s).result = .ok report) :
    report.Shows r.overflow (.of (e.resolve r h g s).calls (e.visits r h g s)) := by
  have hkeeps := keepsSettled_watchAt e r h (.start g ([], s)) (settled_start r.overflow g s)
  rw [← alone_visited] at hreport ⊢
  obtain ⟨hok, rfl⟩ := Resolution.ofOutcome_result_eq_ok_iff.mp hreport
  rw [visits, visited]
  generalize exec (watchAt (visit e r) r (h.beside (List Visit)) [] e) (.start g ([], s)) = outcome
    at hkeeps hok ⊢
  obtain ⟨_ | _, run⟩ := outcome
  · cases hok
  · exact hkeeps

/-- The program is stopped only if too much has been done. -/
theorem exceed_of_overflow (hover : (e.resolve r h g s).result = .error .overflow) :
    r.overflow = .stops ∧
      (Deeds.of (e.resolve r h g s).calls (e.visits r h g s)).Exceed := by
  have hkeeps := keepsSettled_watchAt e r h
  rw [← alone_visited] at hover ⊢
  have hstopped := Resolution.ofOutcome_result_eq_error_iff.mp hover
  exact hkeeps.exec_of_error (settled_start r.overflow g s) hstopped rfl

/-! ## Too many bodies -/

/-- However often nothing is done, it is counted how often, and that is all. -/
theorem exec_idle (r : Rules) (h : Handler σ) (depth : Nat) {target : String} {t : Tally}
    (ht : Tally.parse? target = some t) (d : String) (m : Marks) (run : Run σ) :
    exec (resolveAt (r.limited 0) h depth (.forEach target (.sequence []) d m)) run =
      exec (count r (.repeating (t.count run.game))) run := by
  have hbody : resolveAt (r.limited 0) h (depth + 1) (.sequence []) = pure () := by
    rw [sequence, resolveAt, checkDepth_unlimited, pure_bind]
    rfl
  have hrepeated (n : Nat) : repeated (pure () : Resolve σ Unit) n = pure () := by
    induction n with
    | zero => rfl
    | succ n ih => rw [repeated, pure_bind, ih]
  rw [resolveAt, checkDepth_unlimited, pure_bind, hbody, exec_bind, exec_tally, ht]
  simp only [hrepeated, bind_pure_unit]
  rfl

/-- Nothing, for every child at work. -/
def idleChildren : Effect := .forEach "niño_usado_esta_ronda" (.sequence []) "Por niño" .none

/-- Nothing, for every worker at work. -/
def idleWorkers : Effect :=
  .forEach "trabajador_usado_esta_ronda" (.sequence []) "Por trabajador" .none

/-- One child is at work, and as many workers as there can be. -/
def crowdedCity : GameState := GameState.empty.setRound ⟨1, 4294967295⟩

/-- One loop after the other comes to one body more than words can say. So the program is stopped,
or the count has started again at zero. -/
theorem resolve_idleLoops (o : Overflow) (h : Handler σ) (s : σ) :
    ((sequence [idleChildren]).resolve ⟨.default, none, o⟩ h crowdedCity s).result =
      .ok (.repeating 1) ∧
    ((sequence [idleWorkers]).resolve ⟨.default, none, o⟩ h crowdedCity s).result =
      .ok (.repeating 4294967295) ∧
    ((sequence [idleChildren, idleWorkers]).resolve ⟨.default, none, o⟩ h crowdedCity s).result =
      if o = .stops then .error .overflow else .ok .empty := by
  have hunlimited : Rules.limited ⟨.default, none, o⟩ 0 = ⟨.default, none, o⟩ := rfl
  have hchildren (run : Run σ) := exec_idle ⟨.default, none, o⟩ h 1 (t := .childrenUsed)
    (show Tally.parse? "niño_usado_esta_ronda" = _ by decide) "Por niño" .none run
  have hworkers (run : Run σ) := exec_idle ⟨.default, none, o⟩ h 1 (t := .workersUsed)
    (show Tally.parse? "trabajador_usado_esta_ronda" = _ by decide) "Por trabajador" .none run
  have hchild : Tally.count .childrenUsed crowdedCity = 1 := rfl
  have hcrowd : Tally.count .workersUsed crowdedCity = 4294967295 := rfl
  have hfits (n : UInt32) : ¬Report.empty.Overflows o (.repeating n) :=
    Report.not_empty_overflows o _
  have hmany : (Report.repeating 1).Overflows o (.repeating 4294967295) ↔ o = .stops := by
    cases o <;> decide +kernel
  have hzero : (Report.repeating 1).add (.repeating 4294967295) = .empty := by decide +kernel
  simp only [hunlimited, exec_count, sequence] at hchildren hworkers
  simp only [sequence, idleChildren, idleWorkers, resolve_composite_eq, resolveEach, inOrder,
    exec_bind, hchildren, hworkers, Run.start, hchild, hcrowd, hfits, hmany, hzero, if_false,
    Report.empty_add, exec_pure]
  refine ⟨rfl, rfl, ?_⟩
  cases o <;> rfl

end Effect

end CityCards
