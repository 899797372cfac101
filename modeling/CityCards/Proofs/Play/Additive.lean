import CityCards.Proofs.Play.Related

/-!
# Accounts that add up

What a part of a resolution does depends on the states of city and handler alone. Account and calls
are only added to. So a part does after anything what it does in the beginning, and a resolution in
two stretches is the second after the first, with both accounts together.

There is one thing of which this is not true. Where counts that are too great stop the program, what
has been counted before may stop a part that is not stopped in the beginning. That happens exactly
if the count before and the count of the part are too great together, since counts never go back.

Main definitions:
* `Resolve.Additive`: a part does not look at the account and the calls before it.
* `Resolution.andThen`: a resolution, and the next one if it has not failed.
* `Resolution.InOneGo`: a resolution is another one, unless it is stopped.

Results:
* `Resolve.additive_bind`: if parts are additive, then so is doing one after another.
* `Effect.additive_resolveAt`: resolving a tree is additive.
* `Resolution.inOneGo_bind`: parts in sequence are two resolutions, one after the other.
-/

namespace CityCards

namespace Run

variable {σ : Type}

/-- The run, if there are an account and calls from before it. -/
def following (run : Run σ) (report : Report) (calls : List Call) : Run σ :=
  { run with report := report.add run.report, calls := calls ++ run.calls }

@[simp] theorem following_game (run : Run σ) (report : Report) (calls : List Call) :
    (run.following report calls).game = run.game := rfl

@[simp] theorem following_player (run : Run σ) (report : Report) (calls : List Call) :
    (run.following report calls).player = run.player := rfl

theorem note_following (run : Run σ) (report : Report) (calls : List Call) (d : Diagnostic) :
    (run.following report calls).note d = (run.note d).following report calls := by
  simp [note, following, Report.add]

/-- What a run has come to is what has come before a new beginning from its states. -/
theorem start_following (run : Run σ) :
    (start run.game run.player).following run.report run.calls = run := by
  simp [start, following]

end Run

namespace Resolve

variable {σ α β : Type} {o : Overflow}

/-- The part does not look at the account and the calls that come before it, as long as nothing is
counted too often on the whole. -/
structure Additive (o : Overflow) (m : Resolve σ α) : Prop where
  /-- What is too much before the part is too much after it. -/
  grows : ∀ (run : Run σ) (report : Report), report.Overflows o run.report →
    report.Overflows o (exec m run).2.report
  /-- If it is not too much after the part, then what comes before it makes no difference. -/
  fits : ∀ (run : Run σ) (report : Report) (calls : List Call),
    ¬report.Overflows o (exec m run).2.report →
    exec m (run.following report calls) =
      ((exec m run).1, (exec m run).2.following report calls)
  /-- If it is too much after the part and has not been before, then the part is stopped. -/
  stops : ∀ (run : Run σ) (report : Report) (calls : List Call),
    ¬report.Overflows o run.report → report.Overflows o (exec m run).2.report →
    (exec m (run.following report calls)).1 = .error .overflow

/-- A part that counts nothing and looks at no account and no calls is additive. -/
theorem additive_of_uncounted {m : Resolve σ α}
    (hcounts : ∀ (run : Run σ) (report : Report),
      report.Overflows o (exec m run).2.report ↔ report.Overflows o run.report)
    (hsame : ∀ (run : Run σ) (report : Report) (calls : List Call),
      exec m (run.following report calls) =
        ((exec m run).1, (exec m run).2.following report calls)) : Additive o m where
  grows run report := (hcounts run report).mpr
  fits run report calls _ := hsame run report calls
  stops run report _ hnot hover := absurd ((hcounts run report).mp hover) hnot

theorem additive_pure (a : α) : Additive (σ := σ) o (pure a) :=
  additive_of_uncounted (fun _ _ => Iff.rfl) fun _ _ _ => rfl

theorem additive_throw (e : ResolveError) : Additive o (throw e : Resolve σ α) :=
  additive_of_uncounted (fun _ _ => Iff.rfl) fun _ _ _ => rfl

theorem additive_bind {m : Resolve σ α} {f : α → Resolve σ β} (hm : Additive o m)
    (hf : ∀ a, Additive o (f a)) : Additive o (m >>= f) where
  grows run report hover := by
    have hfirst := hm.grows run report hover
    rw [exec_bind]
    generalize exec m run = outcome at hfirst ⊢
    obtain ⟨e | a, run'⟩ := outcome
    · exact hfirst
    · exact (hf a).grows run' report hfirst
  fits run report calls hnot := by
    have hfirst := hm.fits run report calls
    rw [exec_bind] at hnot ⊢
    rw [exec_bind]
    generalize exec m run = outcome at hfirst hnot ⊢
    obtain ⟨e | a, run'⟩ := outcome
    · rw [hfirst hnot]
    · rw [hfirst fun hover => hnot ((hf a).grows run' report hover)]
      exact (hf a).fits run' report calls hnot
  stops run report calls hnot hover := by
    by_cases hfirst : report.Overflows o (exec m run).2.report
    · -- The first part has been stopped already.
      exact exec_bind_fst_of_error (hm.stops run report calls hnot hfirst) f
    · rw [exec_bind] at hover
      rw [exec_bind, hm.fits run report calls hfirst]
      generalize exec m run = outcome at hfirst hover
      obtain ⟨e | a, run'⟩ := outcome
      · exact absurd hover hfirst
      · exact (hf a).stops run' report calls hfirst hover

theorem sequential_additive (o : Overflow) :
    Sequential (fun _ (m : Resolve σ _) (_ : Resolve σ _) => Additive o m) :=
  ⟨additive_pure, additive_bind⟩

/-! ## Single steps -/

theorem additive_checkDepth (r : Rules) (depth : Nat) :
    Additive (σ := σ) r.overflow (checkDepth r depth) := by
  refine additive_of_uncounted (fun run report => ?_) fun run report calls => ?_
  · rw [exec_checkDepth]
    split <;> rfl
  · rw [exec_checkDepth, exec_checkDepth]
    split <;> rfl

theorem additive_test (r : Rules) (c : Condition) :
    Additive (σ := σ) r.overflow (test r c) := by
  refine additive_of_uncounted (fun run report => ?_) fun run report calls => ?_
  · rw [exec_test]
    cases (c.outcome r.custom run.game).anomaly with
    | none => rfl
    | some a => cases r.config.strict <;> rfl
  · rw [exec_test, exec_test, Run.following_game]
    cases (c.outcome r.custom run.game).anomaly with
    | none => rfl
    | some a =>
      dsimp only
      split
      · rfl
      · rw [Run.note_following]

theorem additive_tally (r : Rules) (target : String) :
    Additive (σ := σ) r.overflow (tally r target) := by
  refine additive_of_uncounted (fun run report => ?_) fun run report calls => ?_
  · rw [exec_tally]
    cases Tally.parse? target with
    | some t => rfl
    | none => cases r.config.strict <;> rfl
  · rw [exec_tally, exec_tally]
    cases Tally.parse? target with
    | some t => rfl
    | none =>
      dsimp only
      split
      · rfl
      · rw [Run.note_following]

theorem additive_applyBasic (h : Handler σ) (b : Basic) : Additive o (applyBasic h b) := by
  refine additive_of_uncounted (fun run report => ?_) fun run report calls => ?_
  · rw [exec_applyBasic]
    rcases h.applyBasic b run.game run.player with ⟨_ | _, game, player⟩ <;> rfl
  · rw [exec_applyBasic, exec_applyBasic, Run.following_game, Run.following_player]
    rcases h.applyBasic b run.game run.player with ⟨_ | _, game, player⟩ <;> simp [Run.following]

theorem additive_makeChoice (h : Handler σ) (c : Choice) : Additive o (makeChoice h c) := by
  refine additive_of_uncounted (fun run report => ?_) fun run report calls => ?_
  · rw [exec_makeChoice]
    rcases h.makeChoice c run.player with ⟨_ | _, player⟩ <;> rfl
  · rw [exec_makeChoice, exec_makeChoice, Run.following_player]
    rcases h.makeChoice c run.player with ⟨_ | _, player⟩ <;> simp [Run.following]

/-- What is counted adds up, since it makes no difference which accounts are put together first. -/
theorem additive_count (r : Rules) (entry : Report) :
    Additive (σ := σ) r.overflow (count r entry) := by
  have hassoc (run : Run σ) (report : Report) :=
    Report.overflows_assoc r.overflow report run.report entry
  refine ⟨fun run report hover => ?_, fun run report calls hnot => ?_,
    fun run report calls hnot hover => ?_⟩
  · rw [exec_count]
    split
    · exact hover
    · rename_i hentry
      exact ((hassoc run report).mp (Or.inl hover)).resolve_left hentry
  · rw [exec_count] at hnot
    rw [exec_count, exec_count]
    by_cases hentry : run.report.Overflows r.overflow entry
    · rw [if_pos hentry] at hnot ⊢
      have hlater := ((hassoc run report).mpr (Or.inl hentry)).resolve_left hnot
      exact if_pos hlater
    · rw [if_neg hentry] at hnot ⊢
      have hlater : ¬(report.add run.report).Overflows r.overflow entry := fun hlater =>
        ((hassoc run report).mp (Or.inr hlater)).elim hentry hnot
      refine (if_neg hlater).trans ?_
      simp [Run.following, Report.add_assoc]
  · rw [exec_count] at hover
    rw [exec_count]
    by_cases hentry : run.report.Overflows r.overflow entry
    · rw [if_pos hentry] at hover
      exact absurd hover hnot
    · rw [if_neg hentry] at hover
      have hlater := ((hassoc run report).mpr (Or.inr hover)).resolve_left hnot
      exact congrArg Prod.fst (if_pos hlater)

theorem visit_additive (r : Rules) (h : Handler σ) (depth : Nat) (e : Effect) :
    VisitRelated (fun _ m (_ : Resolve σ _) => Additive r.overflow m) r r h h depth e := by
  refine ⟨additive_checkDepth r depth, fun entry _ => additive_count r entry, ?_⟩
  cases e with
  | basic b => exact additive_applyBasic h b
  | conditional c t f m => exact additive_test r c
  | multi bs d m => exact fun b _ => additive_test r b.1
  | choice d lo hi os m =>
    refine additive_bind (additive_makeChoice h _) fun is =>
      additive_bind (additive_count r .chosen) fun _ => ?_
    cases select (List.finRange os.length) is with
    | ok ps => exact additive_pure ps
    | error e => exact additive_throw e
  | forEach t b d m => exact additive_tally r t
  | composite es d m => trivial

end Resolve

open Resolve

/-! ## Trees -/

variable {σ : Type}

/-- Resolving a tree at any depth is additive. -/
theorem Effect.additive_resolveAt (r : Rules) (h : Handler σ) (depth : Nat) (e : Effect) :
    Additive r.overflow (resolveAt r h depth e) := by
  -- Any place at that depth will do, since the steps are additive at every depth.
  have hdepth : (List.replicate depth Segment.body).length = depth := List.length_replicate
  have h := resolveAt_related (h := h) (sequential_additive r.overflow) (List.replicate depth .body)
    e fun x _ => visit_additive r h x.1.length x.2
  rwa [hdepth] at h

theorem Effect.additive_resolveOption (r : Rules) (h : Handler σ) (depth : Nat)
    (o : Option Effect) : Additive r.overflow (resolveOption r h depth o) := by
  cases o with
  | none => exact additive_pure ()
  | some e => exact additive_resolveAt r h depth e

theorem Effect.additive_resolveEach (r : Rules) (h : Handler σ) (depth : Nat)
    (es : List Effect) : Additive r.overflow (inOrder (resolveEach r h depth es)) := by
  rw [resolveEach_eq]
  exact (sequential_additive r.overflow).inOrder (g := resolveAt r h depth)
    fun e _ => additive_resolveAt r h depth e

theorem Effect.additive_resolveBranches (r : Rules) (h : Handler σ) (depth : Nat)
    (bs : List (Condition × Effect)) : Additive r.overflow (resolveBranches r h depth bs) := by
  induction bs with
  | nil => exact additive_pure false
  | cons b rest ih =>
    refine additive_bind (additive_test r b.1) fun holds => ?_
    cases holds
    · exact ih
    · exact additive_bind (additive_resolveAt r h depth b.2) fun _ => additive_pure true

/-! ## Whole resolutions -/

namespace Resolution

variable {o : Overflow}

/-- The resolution, if there is an account from before it. Together they may count too much. -/
def following (res : Resolution σ) (o : Overflow) (report : Report) : Resolution σ :=
  { res with
    result := match res.result with
      | .ok later => if report.Overflows o later then .error .overflow else .ok (report.add later)
      | .error e => .error e }

/-- The resolution, and after it the next one from the states that it has left. If it has failed,
then the next one does not begin. -/
def andThen (res : Resolution σ) (o : Overflow) (next : GameState → σ → Resolution σ) :
    Resolution σ :=
  match res.result with
  | .error _ => res
  | .ok report =>
    let later := (next res.game res.player).following o report
    { later with calls := res.calls ++ later.calls }

/-- The resolution is the other one, or the program has stopped because of what is counted on the
whole. In this case the other one does not come to a report either. -/
def InOneGo (o : Overflow) (whole parts : Resolution σ) : Prop :=
  whole = parts ∨ o = .stops ∧ whole.result = .error .overflow ∧ ∃ e, parts.result = .error e

theorem InOneGo.eq_of_ok {whole parts : Resolution σ} (h : InOneGo o whole parts) {report : Report}
    (hreport : whole.result = .ok report) : whole = parts := by
  obtain heq | ⟨-, hover, -⟩ := h
  · exact heq
  · cases hover.symm.trans hreport

/-- After an account that is not too much for what follows, an additive part does what it does in
the beginning. -/
theorem ofOutcome_following {m : Resolve σ Unit} (hm : Additive o m) {g : GameState} {s : σ}
    {report : Report} (hfits : ¬report.Overflows o (exec m (.start g s)).2.report)
    (calls : List Call) :
    ofOutcome (exec m ((Run.start g s).following report calls)) =
      { (ofOutcome (exec m (.start g s))).following o report with
        calls := calls ++ (ofOutcome (exec m (.start g s))).calls } := by
  rw [hm.fits (.start g s) report calls hfits]
  generalize exec m (.start g s) = outcome at hfits
  obtain ⟨e | _, run⟩ := outcome
  · rfl
  · simp [ofOutcome, following, Except.map, Run.following, hfits]

/-- After an account and calls, an additive part does what it does in the beginning, unless it is
stopped. -/
theorem inOneGo_following {m : Resolve σ Unit} (hm : Additive o m) (g : GameState) (s : σ)
    (report : Report) (calls : List Call) :
    InOneGo o (ofOutcome (exec m ((Run.start g s).following report calls)))
      { (ofOutcome (exec m (.start g s))).following o report with
        calls := calls ++ (ofOutcome (exec m (.start g s))).calls } := by
  have hstart : ¬report.Overflows o (Run.start g s).report := fun h =>
    Report.not_empty_overflows o report (Report.overflows_comm.mp h)
  by_cases hover : report.Overflows o (exec m (.start g s)).2.report
  · have hstops := hm.stops (.start g s) report calls hstart hover
    refine Or.inr ⟨hover.1, ofOutcome_result_eq_error_iff.mpr hstops, ?_⟩
    generalize exec m (.start g s) = outcome at hover
    obtain ⟨e | _, run⟩ := outcome
    · exact ⟨e, rfl⟩
    · exact ⟨.overflow, if_pos hover⟩
  · exact Or.inl (ofOutcome_following hm hover calls)

/-- To do one part after another is to go on with the second from the states that the first has
left, unless it is stopped. -/
theorem inOneGo_bind {m n : Resolve σ Unit} (hn : Additive o n) (run : Run σ) :
    InOneGo o (ofOutcome (exec (m >>= fun _ => n) run))
      ((ofOutcome (exec m run)).andThen o fun g s => .ofOutcome (exec n (.start g s))) := by
  rw [exec_bind]
  generalize exec m run = outcome
  obtain ⟨e | _, run'⟩ := outcome
  · exact Or.inl rfl
  · have hlater := inOneGo_following hn run'.game run'.player run'.report run'.calls
    rw [Run.start_following] at hlater
    exact hlater

end Resolution

end CityCards
