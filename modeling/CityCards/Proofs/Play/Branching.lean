import CityCards.Play.Scripted
import CityCards.Proofs.Play.Additive
import CityCards.Proofs.Play.Depth
import CityCards.Proofs.Play.Silent

/-!
# Branches in turn

Branches are conditionals, of which each stands where the one before says what happens if its
condition does not hold. So the conditions are asked in turn up to the first that holds. The effect
of this branch is resolved and nothing else, and the default only if there is no such branch. What
follows in the list of branches is not even looked at.

Main definitions:
* `Effect.chain`: branches as conditionals in each other.
* `Resolution.asking`: a resolution that only asks conditions.

Results:
* `Effect.resolveAt_multi`: branches are resolved as their chain is.
* `Resolve.exec_ask`: what asking conditions in turn comes to.
* `Resolve.exec_resolveBranches_of_split`: the first branch whose condition holds is resolved.
* `Effect.resolve_multi_eq_chain`: what that means for the resolution of branches.
-/

namespace CityCards

open Resolve

variable {σ : Type}

/-! ## Conditionals in each other -/

namespace Effect

/-- The branches as conditionals, each of them in the place of what happens if the condition before
does not hold. -/
def chain : List (Condition × Effect) → Option Effect → Option Effect
  | [], d => d
  | (c, e) :: rest, d => some (.conditional c e (chain rest d) .none)

/-- The resolution of a tree that may be missing: if it is, then nothing is done. -/
def resolveIfAny (o : Option Effect) (r : Rules) (h : Handler σ) (g : GameState) (s : σ) :
    Resolution σ :=
  match o with
  | some e => e.resolve r h g s
  | none => ⟨.ok .empty, g, s, []⟩

theorem resolveIfAny_eq (o : Option Effect) (r : Rules) (h : Handler σ) (g : GameState) (s : σ) :
    resolveIfAny o r h g s = .ofOutcome (exec (resolveOption r h 0 o) (.start g s)) := by
  cases o <;> rfl

/-- Without a limit of depth, branches are resolved as their chain is, wherever they stand. -/
theorem resolveAt_multi (r : Rules) (h : Handler σ) (depth depth' : Nat)
    (bs : List (Condition × Effect)) (d : Option Effect) (m : Marks) :
    resolveAt (r.limited 0) h depth (.multi bs d m) =
      resolveOption (r.limited 0) h depth' (chain bs d) := by
  rw [resolveAt, checkDepth_unlimited, pure_bind]
  induction bs generalizing depth' with
  | nil =>
    rw [resolveBranches, pure_bind]
    exact resolveOption_unlimited r h (depth + 1) depth' d
  | cons b rest ih =>
    obtain ⟨c, e⟩ := b
    rw [resolveBranches, chain, resolveOption, resolveAt, checkDepth_unlimited, pure_bind,
      bind_assoc]
    refine congrArg _ (funext fun holds => ?_)
    cases holds with
    | false => exact ih (depth' + 1)
    | true =>
      have htaken : ((resolveAt (r.limited 0) h (depth + 1) e >>= fun _ => pure true) >>=
          fun taken =>
            if taken = true then pure () else resolveOption (r.limited 0) h (depth + 1) d) =
          resolveAt (r.limited 0) h (depth + 1) e := by
        simp
      exact htaken.trans (resolveAt_unlimited r h (depth + 1) (depth' + 1) e)

end Effect

/-! ## Asking conditions -/

/-- Why conditions cannot be decided in a state as they stand, one after the other. -/
def Rules.anomalies (r : Rules) (g : GameState) (cs : List Condition) : List Anomaly :=
  cs.filterMap fun c => (c.outcome r.custom g).anomaly

/-- The resolution that only asks the conditions. It notes their anomalies, of which under strict
settings the first is the end. -/
def Resolution.asking (r : Rules) (g : GameState) (s : σ) (cs : List Condition) : Resolution σ :=
  match r.config.strict, r.anomalies g cs with
  | true, a :: _ => ⟨.error (.anomaly (.condition a)), g, s, []⟩
  | _, as => ⟨.ok { Report.empty with diagnostics := as.map .condition }, g, s, []⟩

namespace Resolve

/-- Asks conditions in turn, and goes on whether they hold or not. -/
def ask (r : Rules) : List Condition → Resolve σ Unit
  | [] => pure ()
  | c :: rest => do
    let _ ← test r c
    ask r rest

theorem exec_ask (r : Rules) (cs : List Condition) (run : Run σ) :
    exec (ask r cs) run =
      match r.config.strict, r.anomalies run.game cs with
      | true, a :: _ => (.error (.anomaly (.condition a)), run)
      | _, as => (.ok (), { run with report := { run.report with
          diagnostics := run.report.diagnostics ++ as.map .condition } }) := by
  induction cs generalizing run with
  | nil => cases hs : r.config.strict <;> simp [ask, Rules.anomalies]
  | cons c rest ih =>
    rw [ask, exec_bind, exec_test]
    cases ha : (c.outcome r.custom run.game).anomaly with
    | none =>
      have hnone : r.anomalies run.game (c :: rest) = r.anomalies run.game rest :=
        List.filterMap_cons_none ha
      rw [hnone]
      exact ih run
    | some a =>
      have hsome : r.anomalies run.game (c :: rest) = a :: r.anomalies run.game rest :=
        List.filterMap_cons_some ha
      rw [hsome]
      cases hs : r.config.strict with
      | true => rfl
      | false =>
        have hlater := ih (run.note (.condition a))
        rw [hs] at hlater
        refine hlater.trans ?_
        simp [Run.note]

/-- A condition that is asked fails, or it has the value that it has in the state, which stays. -/
theorem exec_test_cases (r : Rules) (c : Condition) (run : Run σ) :
    (∃ e, exec (test r c) run = (.error e, run)) ∨
      ∃ run', exec (test r c) run = (.ok (c.evaluate r.custom run.game), run') ∧
        run'.game = run.game := by
  rw [exec_test, Condition.evaluate]
  cases (c.outcome r.custom run.game).anomaly with
  | none => exact Or.inr ⟨run, rfl, rfl⟩
  | some a =>
    cases r.config.strict with
    | true => exact Or.inl ⟨_, rfl⟩
    | false => exact Or.inr ⟨_, rfl, rfl⟩

/-- Of a branch whose condition does not hold, the condition is asked, and it goes on with the
others from the same state of the city. -/
theorem exec_resolveBranches_of_false (r : Rules) (h : Handler σ) (depth : Nat)
    {b : Condition × Effect} {rest : List (Condition × Effect)} {cs : List Condition}
    {m : Resolve σ Bool} {run : Run σ} (hb : b.1.evaluate r.custom run.game = false)
    (hrest : ∀ run' : Run σ, run'.game = run.game →
      exec (Effect.resolveBranches r h depth rest) run' = exec (do ask r cs; m) run') :
    exec (Effect.resolveBranches r h depth (b :: rest)) run =
      exec (do ask r (b.1 :: cs); m) run := by
  rw [Effect.resolveBranches, ask, bind_assoc, exec_bind, exec_bind]
  obtain ⟨e, herror⟩ | ⟨run', hok, hgame⟩ := exec_test_cases r b.1 run
  · rw [herror]
  · rw [hok, hb]
    exact hrest run' hgame

/-- The conditions are asked up to the first that holds, and its branch is resolved. -/
theorem exec_resolveBranches_of_split (r : Rules) (h : Handler σ) (depth : Nat)
    (before : List (Condition × Effect)) (c : Condition) (e : Effect)
    (after : List (Condition × Effect)) (run : Run σ)
    (hbefore : ∀ b ∈ before, b.1.evaluate r.custom run.game = false)
    (hc : c.evaluate r.custom run.game = true) :
    exec (Effect.resolveBranches r h depth (before ++ (c, e) :: after)) run =
      exec (do ask r (before.map Prod.fst ++ [c]); Effect.resolveAt r h depth e; pure true)
        run := by
  induction before generalizing run with
  | nil =>
    rw [List.nil_append, List.map_nil, List.nil_append, Effect.resolveBranches, ask, ask,
      bind_assoc, exec_bind, exec_bind]
    obtain ⟨err, herror⟩ | ⟨run', hok, -⟩ := exec_test_cases r c run
    · rw [herror]
    · rw [hok, hc]
      rfl
  | cons b rest ih =>
    refine exec_resolveBranches_of_false r h depth (hbefore b List.mem_cons_self) ?_
    intro run' hgame
    rw [← hgame] at hbefore hc
    exact ih run' (fun x hx => hbefore x (List.mem_cons_of_mem _ hx)) hc

/-- If no condition holds, then all of them are asked and no branch is resolved. -/
theorem exec_resolveBranches_of_none (r : Rules) (h : Handler σ) (depth : Nat)
    (bs : List (Condition × Effect)) (run : Run σ)
    (hbs : ∀ b ∈ bs, b.1.evaluate r.custom run.game = false) :
    exec (Effect.resolveBranches r h depth bs) run =
      exec (do ask r (bs.map Prod.fst); pure false) run := by
  induction bs generalizing run with
  | nil => rfl
  | cons b rest ih =>
    refine exec_resolveBranches_of_false r h depth (hbs b List.mem_cons_self) ?_
    intro run' hgame
    rw [← hgame] at hbs
    exact ih run' fun x hx => hbs x (List.mem_cons_of_mem _ hx)

/-- How deep trees may be makes no difference for conditions. -/
theorem ask_limited (r : Rules) (limit : UInt32) (cs : List Condition) :
    (ask (r.limited limit) cs : Resolve σ Unit) = ask r cs := by
  induction cs with
  | nil => rfl
  | cons c rest ih =>
    rw [ask, ask, ih]
    rfl

/-- Without a limit of depth, only the first branch whose condition holds is resolved. -/
theorem exec_multi_of_split (r : Rules) (h : Handler σ) (depth : Nat)
    {before after : List (Condition × Effect)} {c : Condition} {e : Effect} (d : Option Effect)
    (m : Marks) (run : Run σ) (hbefore : ∀ b ∈ before, b.1.evaluate r.custom run.game = false)
    (hc : c.evaluate r.custom run.game = true) :
    exec (Effect.resolveAt (r.limited 0) h depth (.multi (before ++ (c, e) :: after) d m)) run =
      exec (do ask r (before.map Prod.fst ++ [c]); Effect.resolveAt (r.limited 0) h depth e)
        run := by
  have hsplit := exec_resolveBranches_of_split (r.limited 0) h (depth + 1) before c e after run
    hbefore hc
  rw [ask_limited] at hsplit
  rw [Effect.resolveAt, checkDepth_unlimited, pure_bind, exec_bind, hsplit, ← exec_bind,
    Effect.resolveAt_unlimited r h (depth + 1) depth e]
  simp only [bind_assoc, pure_bind, if_true, bind_pure_unit]

/-- Without a limit of depth, the default is resolved if no condition holds. -/
theorem exec_multi_of_none (r : Rules) (h : Handler σ) (depth : Nat)
    {bs : List (Condition × Effect)} (d : Option Effect) (m : Marks) (run : Run σ)
    (hbs : ∀ b ∈ bs, b.1.evaluate r.custom run.game = false) :
    exec (Effect.resolveAt (r.limited 0) h depth (.multi bs d m)) run =
      exec (do ask r (bs.map Prod.fst); Effect.resolveOption (r.limited 0) h depth d) run := by
  have hnone := exec_resolveBranches_of_none (r.limited 0) h (depth + 1) bs run hbs
  rw [ask_limited] at hnone
  rw [Effect.resolveAt, checkDepth_unlimited, pure_bind, exec_bind, hnone, ← exec_bind,
    Effect.resolveOption_unlimited r h (depth + 1) depth d]
  simp only [bind_assoc, pure_bind, Bool.false_eq_true, if_false]

end Resolve

/-- To ask conditions and then do something is to go on after asking them. Since they count nothing,
the program is not stopped in between. -/
theorem Resolution.ofOutcome_ask (r : Rules) (cs : List Condition) {o : Overflow}
    {m : Resolve σ Unit} (hm : Additive o m) (g : GameState) (s : σ) :
    ofOutcome (exec (do ask r cs; m) (.start g s)) =
      (asking r g s cs).andThen o fun g s => .ofOutcome (exec m (.start g s)) := by
  have hgoing (as : List Anomaly) :
      ofOutcome (exec m { Run.start g s with report := ⟨0, 0, 0, as.map .condition⟩ }) =
        (⟨.ok ⟨0, 0, 0, as.map .condition⟩, g, s, []⟩ : Resolution σ).andThen o
          fun g s => .ofOutcome (exec m (.start g s)) := by
    have hnoted : { Run.start g s with report := ⟨0, 0, 0, as.map .condition⟩ } =
        (Run.start g s).following ⟨0, 0, 0, as.map .condition⟩ [] := by
      simp [Run.following, Run.start]
    rw [hnoted]
    exact ofOutcome_following hm (Report.not_overflows_of_zero rfl rfl rfl o _) []
  have hgame : (Run.start g s).game = g := rfl
  rw [exec_bind, exec_ask, asking, hgame]
  cases r.config.strict with
  | false => exact hgoing (r.anomalies g cs)
  | true =>
    cases r.anomalies g cs with
    | nil => exact hgoing []
    | cons a rest => rfl

/-! ## Whole resolutions -/

namespace Effect

variable (r : Rules) (h : Handler σ) (g : GameState) (s : σ)

/-- Without a limit of depth, branches are resolved like conditionals in each other. If the
condition of some branch holds, then up to the first one that does the conditions are asked, and the
effect of this branch is resolved, whatever the other branches and the default are. If none holds,
then all conditions are asked, and the default is resolved, if there is one. -/
theorem resolve_multi_eq_chain (bs : List (Condition × Effect)) (d : Option Effect) (m : Marks) :
    (multi bs d m).resolve (r.limited 0) h g s = resolveIfAny (chain bs d) (r.limited 0) h g s ∧
    (∀ before c e after, bs = before ++ (c, e) :: after →
      (∀ b ∈ before, b.1.evaluate r.custom g = false) → c.evaluate r.custom g = true →
      (multi bs d m).resolve (r.limited 0) h g s =
        (Resolution.asking r g s (before.map Prod.fst ++ [c])).andThen r.overflow
          fun g s => e.resolve (r.limited 0) h g s) ∧
    ((∀ b ∈ bs, b.1.evaluate r.custom g = false) →
      (multi bs d m).resolve (r.limited 0) h g s =
        (Resolution.asking r g s (bs.map Prod.fst)).andThen r.overflow
          fun g s => resolveIfAny d (r.limited 0) h g s) := by
  refine ⟨?_, ?_, fun hbs => ?_⟩
  · rw [resolve_eq, resolveIfAny_eq, resolveAt_multi r h 0 0]
  · rintro before c e after rfl hbefore hc
    simp only [resolve_eq]
    rw [exec_multi_of_split r h 0 d m (.start g s) hbefore hc]
    exact Resolution.ofOutcome_ask r _ (additive_resolveAt (r.limited 0) h 0 e) g s
  · simp only [resolve_eq, resolveIfAny_eq]
    rw [exec_multi_of_none r h 0 d m (.start g s) hbs]
    exact Resolution.ofOutcome_ask r _ (additive_resolveOption (r.limited 0) h 0 d) g s

/-- Little of a resource that there is not: of an unknown key there is nothing. -/
def scarceOfUnknown : Condition :=
  { Condition.plain .resourceAmount "Escasez" with
    operator := some .lessThan, value := some (.number 3), compareWith := some "carbón" }

/-- Three conditions that cannot be decided as they stand. -/
def undecidedBranches : List (Condition × Effect) :=
  [(.custom "¿Fiesta?", .plain .heal "Cura"), (scarceOfUnknown, .plain .treat "Trata"),
    (.custom "¿Luto?", .plain .heal "Cura")]

/-- The fallback of the second condition is that it holds. So there are two anomalies, for the third
condition is not asked. -/
theorem resolve_multi_undecidedBranches :
    (Condition.custom "¿Fiesta?").evaluate none .empty = false ∧
    scarceOfUnknown.evaluate none .empty = true ∧
    (multi undecidedBranches none .none).resolve (Rules.limited ⟨.default, none, .stops⟩ 0)
        Script.empty.handler .empty .all =
      (Resolution.asking ⟨.default, none, .stops⟩ .empty .all
        [.custom "¿Fiesta?", scarceOfUnknown]).andThen .stops
          ((plain .treat "Trata").resolve (Rules.limited ⟨.default, none, .stops⟩ 0)
            Script.empty.handler) ∧
    ((multi undecidedBranches none .none).resolve (Rules.limited ⟨.default, none, .stops⟩ 0)
      Script.empty.handler .empty .all).result = .ok ⟨1, 0, 0,
        [.condition (.unhandledCustom "¿Fiesta?"),
          .condition (.unknownKey .resourceAmount "carbón")]⟩ := by
  have hfirst : (Condition.custom "¿Fiesta?").evaluate none .empty = false := by decide
  have hsecond : scarceOfUnknown.evaluate none .empty = true := by decide +kernel
  refine ⟨hfirst, hsecond, ?_, by decide +kernel⟩
  refine (resolve_multi_eq_chain ⟨.default, none, .stops⟩ Script.empty.handler .empty .all
    undecidedBranches none .none).2.1 [(.custom "¿Fiesta?", .plain .heal "Cura")] scarceOfUnknown
    (.plain .treat "Trata") [(.custom "¿Luto?", .plain .heal "Cura")] rfl ?_ hsecond
  rintro b (- | ⟨_, hb⟩)
  · exact hfirst
  · cases hb

end Effect

end CityCards
