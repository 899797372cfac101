import CityCards.Play.Resolution
import Mathlib.Data.List.Basic

/-!
# What the steps of a resolution do

A part of a resolution takes a run to an outcome and a run. This says which for every step that a
resolution is made of, so that later proofs need not look into the monad.

Main definitions:
* `Resolve.exec`: the outcome of a part and the run after it.
* `Resolve.choose`: a choice, answered by positions that options have.

Results:
* `Resolve.exec_bind`: the second part starts from the run that the first has left.
* `Effect.resolve_eq`: a resolution is the outcome of resolving the root when nothing has been done.
-/

namespace CityCards

/-- The run with one more diagnostic in its account. -/
def Run.note {σ : Type} (run : Run σ) (d : Diagnostic) : Run σ :=
  { run with report := { run.report with diagnostics := run.report.diagnostics ++ [d] } }

namespace Resolve

variable {σ α β : Type}

/-- The outcome of a part from a run, and the run after it. -/
def exec (m : Resolve σ α) (run : Run σ) : Except ResolveError α × Run σ := StateT.run m.run run

/-! ## Parts in sequence -/

@[simp] theorem exec_pure (a : α) (run : Run σ) : exec (pure a) run = (.ok a, run) := rfl

@[simp] theorem exec_throw (e : ResolveError) (run : Run σ) :
    exec (throw e : Resolve σ α) run = (.error e, run) := rfl

@[simp] theorem exec_get (run : Run σ) : exec (get : Resolve σ (Run σ)) run = (.ok run, run) := rfl

@[simp] theorem exec_set (run run' : Run σ) :
    exec (set run' : Resolve σ PUnit) run = (.ok (), run') := rfl

@[simp] theorem exec_modify (f : Run σ → Run σ) (run : Run σ) :
    exec (modify f : Resolve σ PUnit) run = (.ok (), f run) := rfl

@[simp] theorem exec_map (f : α → β) (m : Resolve σ α) (run : Run σ) :
    exec (f <$> m) run = ((exec m run).1.map f, (exec m run).2) := by
  unfold exec ExceptT.run StateT.run
  simp only [Functor.map, ExceptT.map, ExceptT.mk, bind, StateT.bind]
  rcases m run with ⟨_ | _, run'⟩ <;> rfl

theorem exec_bind (m : Resolve σ α) (f : α → Resolve σ β) (run : Run σ) :
    exec (m >>= f) run =
      match exec m run with
      | (.ok a, run') => exec (f a) run'
      | (.error e, run') => (.error e, run') := by
  unfold exec ExceptT.run StateT.run
  simp only [bind, ExceptT.bind, ExceptT.mk, StateT.bind]
  rcases m run with ⟨_ | _, run'⟩ <;> rfl

/-- If the first part fails, nothing comes after it. -/
theorem exec_bind_fst_of_error {m : Resolve σ α} {run : Run σ} {e : ResolveError}
    (h : (exec m run).1 = .error e) (f : α → Resolve σ β) :
    (exec (m >>= f) run).1 = .error e := by
  rw [exec_bind]
  generalize exec m run = outcome at h
  obtain ⟨_ | _, run'⟩ := outcome
  · exact congrArg _ (Except.error.inj h)
  · cases h

/-- If all goes well, then both parts go well. -/
theorem exists_of_exec_bind_eq_ok {m : Resolve σ α} {f : α → Resolve σ β} {run run'' : Run σ}
    {b : β} (h : exec (m >>= f) run = (.ok b, run'')) :
    ∃ a run', exec m run = (.ok a, run') ∧ exec (f a) run' = (.ok b, run'') := by
  rw [exec_bind] at h
  rcases hfirst : exec m run with ⟨_ | a, run'⟩ <;> rw [hfirst] at h
  · cases h
  · exact ⟨a, run', rfl, h⟩

/-! ## Single steps -/

theorem exec_diagnose (r : Rules) (d : Diagnostic) (run : Run σ) :
    exec (diagnose r d) run =
      if r.config.strict then (.error (.anomaly d), run) else (.ok (), run.note d) := by
  unfold diagnose
  split <;> rfl

theorem exec_checkDepth (r : Rules) (depth : Nat) (run : Run σ) :
    exec (checkDepth r depth) run =
      if r.config.allowsDepth depth then (.ok (), run)
      else (.error (.depthExceeded r.config.maxDepth), run) := by
  unfold checkDepth
  split <;> rfl

theorem exec_test (r : Rules) (c : Condition) (run : Run σ) :
    exec (test r c) run =
      match (c.outcome r.custom run.game).anomaly with
      | none => (.ok (c.outcome r.custom run.game).value, run)
      | some a =>
        if r.config.strict then (.error (.anomaly (.condition a)), run)
        else (.ok (c.outcome r.custom run.game).value, run.note (.condition a)) := by
  simp only [test, exec_bind, exec_get]
  cases (c.outcome r.custom run.game).anomaly with
  | none => simp
  | some a => by_cases hs : r.config.strict <;> simp [exec_diagnose, hs, Except.map]

theorem value_of_exec_test {r : Rules} {c : Condition} {b : Bool} {run run' : Run σ}
    (h : exec (test r c) run = (.ok b, run')) : b = (c.outcome r.custom run.game).value := by
  rw [exec_test] at h
  cases ha : (c.outcome r.custom run.game).anomaly with
  | none =>
    rw [ha] at h
    cases h
    rfl
  | some a =>
    rw [ha] at h
    cases hs : r.config.strict <;> rw [hs] at h <;> cases h
    rfl

theorem exec_count (r : Rules) (entry : Report) (run : Run σ) :
    exec (count r entry) run =
      if run.report.Overflows r.overflow entry then (.error .overflow, run)
      else (.ok (), { run with report := run.report.add entry }) := by
  simp only [count, exec_bind, exec_get]
  split <;> rfl

theorem exec_tally (r : Rules) (target : String) (run : Run σ) :
    exec (tally r target) run =
      match Tally.parse? target with
      | some t => (.ok (t.count run.game), run)
      | none =>
        if r.config.strict then (.error (.anomaly (.unknownTarget target)), run)
        else (.ok 0, run.note (.unknownTarget target)) := by
  unfold tally
  cases Tally.parse? target with
  | some t => simp [Except.map]
  | none => by_cases hs : r.config.strict <;> simp [exec_diagnose, hs, Except.map]

theorem exec_applyBasic (h : Handler σ) (b : Basic) (run : Run σ) :
    exec (applyBasic h b) run =
      match h.applyBasic b run.game run.player with
      | (.ok (), game, player) => (.ok (),
          { run with game, player, calls := run.calls ++ [.applied b run.game (.ok ())] })
      | (.error m, game, player) => (.error (.handler m),
          { run with game, player, calls := run.calls ++ [.applied b run.game (.error m)] }) := by
  obtain ⟨game, player, report, calls⟩ := run
  simp only [applyBasic, exec_bind, exec_get, exec_set]
  rcases hb : h.applyBasic b game player with ⟨_ | _, game', player'⟩ <;> simp [hb]

theorem exec_makeChoice (h : Handler σ) (c : Choice) (run : Run σ) :
    exec (makeChoice h c) run =
      match h.makeChoice c run.player with
      | (.ok is, player) => (.ok is,
          { run with player, calls := run.calls ++ [.asked c (.ok is)] })
      | (.error m, player) => (.error (.handler m),
          { run with player, calls := run.calls ++ [.asked c (.error m)] }) := by
  obtain ⟨game, player, report, calls⟩ := run
  simp only [makeChoice, exec_bind, exec_get, exec_set]
  rcases hc : h.makeChoice c player with ⟨_ | _, player'⟩ <;> simp [hc]

/-! ## Choices -/

/-- The positions of the options that the handler has chosen. -/
def choose (r : Rules) (h : Handler σ) (c : Choice) : Resolve σ (List (Fin c.options.length)) := do
  let is ← makeChoice h c
  count r .chosen
  match select (List.finRange c.options.length) is with
  | .ok is => pure is
  | .error e => throw e

theorem select_map (f : α → β) (as : List α) (is : List Nat) :
    select (as.map f) is = (select as is).map fun bs => bs.map f := by
  induction is with
  | nil => rfl
  | cons i rest ih =>
    simp only [select, List.getElem?_map, List.length_map, ih]
    cases as[i]? with
    | none => rfl
    | some a => cases select as rest <;> rfl

theorem exists_of_select_eq_error {as : List α} {is : List Nat} {e : ResolveError}
    (h : select as is = .error e) :
    ∃ i ∈ is, as.length ≤ i ∧ e = .choiceOutOfRange i as.length := by
  induction is with
  | nil => cases h
  | cons i rest ih =>
    rw [select] at h
    cases hi : as[i]? with
    | none =>
      rw [hi] at h
      cases h
      exact ⟨i, List.mem_cons_self, List.getElem?_eq_none_iff.mp hi, rfl⟩
    | some a =>
      cases hr : select as rest with
      | ok bs => simp [hi, hr, Except.map] at h
      | error e' =>
        simp only [hi, hr, Except.map, Except.error.injEq] at h
        obtain ⟨j, hj, hle, he⟩ := ih (h ▸ hr)
        exact ⟨j, List.mem_cons_of_mem _ hj, hle, he⟩

/-- Of the positions of a list just the given ones are selected. -/
theorem eq_of_select_finRange {n : Nat} {is : List Nat} {ps : List (Fin n)}
    (h : select (List.finRange n) is = .ok ps) : is = ps.map Fin.val := by
  induction is generalizing ps with
  | nil =>
    cases h
    rfl
  | cons i rest ih =>
    rw [select] at h
    cases hi : (List.finRange n)[i]? with
    | none =>
      rw [hi] at h
      cases h
    | some k =>
      cases hr : select (List.finRange n) rest with
      | error e => simp [hi, hr, Except.map] at h
      | ok qs =>
        simp only [hi, hr, Except.map, Except.ok.injEq] at h
        subst h
        obtain ⟨hlt, hk⟩ := List.getElem?_eq_some_iff.mp hi
        rw [List.map_cons, ← ih hr, ← hk, List.getElem_finRange]
        rfl

end Resolve

open Resolve

/-! ## Whole resolutions -/

/-- Nothing has been done yet. -/
def Run.start {σ : Type} (g : GameState) (s : σ) : Run σ := ⟨g, s, .empty, []⟩

/-- The resolution that has come to this outcome. -/
def Resolution.ofOutcome {σ : Type} (o : Except ResolveError Unit × Run σ) : Resolution σ where
  result := o.1.map fun _ => o.2.report
  game := o.2.game
  player := o.2.player
  calls := o.2.calls

theorem Effect.resolve_eq {σ : Type} (e : Effect) (r : Rules) (h : Handler σ) (g : GameState)
    (s : σ) : e.resolve r h g s = .ofOutcome (exec (resolveAt r h 0 e) (.start g s)) := rfl

theorem Resolution.ofOutcome_result_eq_ok_iff {σ : Type} {o : Except ResolveError Unit × Run σ}
    {report : Report} :
    (ofOutcome o).result = .ok report ↔ o.1 = .ok () ∧ o.2.report = report := by
  obtain ⟨_ | _, run⟩ := o <;> simp [ofOutcome, Except.map]

theorem Resolution.ofOutcome_result_eq_error_iff {σ : Type} {o : Except ResolveError Unit × Run σ}
    {e : ResolveError} : (ofOutcome o).result = .error e ↔ o.1 = .error e := by
  obtain ⟨_ | _, run⟩ := o <;> simp [ofOutcome, Except.map]

end CityCards
