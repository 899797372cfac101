import CityCards.Proofs.Play.Related

/-!
# Strict and lenient resolutions

A strict resolution ends where a lenient one notes its first diagnostic. Up to there both do the
same; so they are compared part by part, and once they part ways nothing more is asked of the
lenient one than that it takes back neither a call nor a diagnostic.

Main definitions:
* `Resolve.Follows`: what a lenient outcome has to be, given the strict one.
* `Resolve.Agrees`: a lenient part follows a strict one from every run.

Results:
* `Effect.agrees_resolveAt`: a tree resolved leniently follows the same tree resolved strictly.
* `Effect.resolve_upToAnomaly`: what that means for the results, the states and the calls.
-/

namespace CityCards

/-- Nothing that was done or noted up to the first run is missing in the second. -/
structure Run.Extends {σ : Type} (run run' : Run σ) : Prop where
  calls : run.calls <+: run'.calls
  diagnostics : run.report.diagnostics <+: run'.report.diagnostics

namespace Run.Extends

variable {σ : Type}

theorem refl (run : Run σ) : run.Extends run := ⟨List.prefix_rfl, List.prefix_rfl⟩

theorem trans {a b c : Run σ} (hab : a.Extends b) (hbc : b.Extends c) : a.Extends c :=
  ⟨hab.calls.trans hbc.calls, hab.diagnostics.trans hbc.diagnostics⟩

theorem note (run : Run σ) (d : Diagnostic) : run.Extends (run.note d) :=
  ⟨List.prefix_rfl, List.prefix_append _ _⟩

end Run.Extends

namespace Resolve

variable {σ α β : Type}

/-- The lenient outcome is the strict one, unless that is an anomaly. Then it goes on from having
noted the anomaly. -/
def Follows (strict lenient : Except ResolveError α × Run σ) : Prop :=
  match strict with
  | (.error (.anomaly d), run) => (run.note d).Extends lenient.2
  | _ => lenient = strict

/-- The second part, which is lenient, does what the first does up to its first anomaly. -/
structure Agrees (α : Type) (m n : Resolve σ α) : Prop where
  quiet : ∀ run : Run σ, (exec m run).2.report.diagnostics = run.report.diagnostics
  grows : ∀ run : Run σ, run.Extends (exec n run).2
  follows : ∀ run : Run σ, Follows (exec m run) (exec n run)

/-! ## Parts that agree -/

theorem agrees_pure (a : α) : Agrees (σ := σ) α (pure a) (pure a) :=
  ⟨fun _ => rfl, Run.Extends.refl, fun _ => rfl⟩

theorem agrees_bind {m n : Resolve σ α} {f g : α → Resolve σ β} (hm : Agrees α m n)
    (hf : ∀ a, Agrees β (f a) (g a)) : Agrees β (m >>= f) (n >>= g) where
  quiet run := by
    have hq := hm.quiet run
    rw [exec_bind]
    generalize exec m run = strict at hq ⊢
    obtain ⟨_ | a, run'⟩ := strict
    · exact hq
    · exact ((hf a).quiet run').trans hq
  grows run := by
    have hg := hm.grows run
    rw [exec_bind]
    generalize exec n run = lenient at hg ⊢
    obtain ⟨_ | a, run'⟩ := lenient
    · exact hg
    · exact hg.trans ((hf a).grows run')
  follows run := by
    have hfol := hm.follows run
    rw [exec_bind, exec_bind]
    generalize exec m run = strict at hfol ⊢
    generalize exec n run = lenient at hfol ⊢
    obtain ⟨e | a, run'⟩ := strict
    · cases e with
      | anomaly d =>
        -- The strict part has ended; what is left to see is that the lenient one does not go back.
        obtain ⟨_ | b, run''⟩ := lenient
        · exact hfol
        · exact Run.Extends.trans hfol ((hf b).grows run'')
      | _ =>
        obtain rfl : lenient = _ := hfol
        rfl
    · obtain rfl : lenient = _ := hfol
      exact (hf a).follows run'

theorem sequential_agrees : Sequential (Agrees (σ := σ)) := ⟨agrees_pure, agrees_bind⟩

/-- A part that makes no diagnosis agrees with itself. -/
theorem agrees_self {m : Resolve σ α} (hcalls : ∀ run : Run σ, run.calls <+: (exec m run).2.calls)
    (hquiet : ∀ run : Run σ, (exec m run).2.report.diagnostics = run.report.diagnostics)
    (hdiagnosis : ∀ (run : Run σ) d, (exec m run).1 ≠ .error (.anomaly d)) : Agrees α m m where
  quiet := hquiet
  grows run := ⟨hcalls run, (hquiet run).symm ▸ List.prefix_rfl⟩
  follows run := by
    have hd := hdiagnosis run
    generalize exec m run = outcome at hd ⊢
    obtain ⟨e | a, run'⟩ := outcome
    · cases e with
      | anomaly d => exact absurd rfl (hd d)
      | _ => rfl
    · rfl

/-! ## Steps that agree -/

/-- The rules that differ in nothing but whether they are strict. -/
def rules (maxDepth : UInt32) (custom : Option CustomEvaluator) (overflow : Overflow)
    (strict : Bool) : Rules :=
  ⟨⟨strict, maxDepth⟩, custom, overflow⟩

section

variable {maxDepth : UInt32} {custom : Option CustomEvaluator} {overflow : Overflow}

theorem agrees_checkDepth (depth : Nat) :
    Agrees (σ := σ) Unit (checkDepth (rules maxDepth custom overflow true) depth)
      (checkDepth (rules maxDepth custom overflow false) depth) := by
  have hsame : checkDepth (σ := σ) (rules maxDepth custom overflow false) depth =
      checkDepth (rules maxDepth custom overflow true) depth := rfl
  rw [hsame]
  apply agrees_self <;> intro run <;> rw [exec_checkDepth] <;> split <;> simp

theorem agrees_test (c : Condition) :
    Agrees (σ := σ) Bool (test (rules maxDepth custom overflow true) c)
      (test (rules maxDepth custom overflow false) c) := by
  constructor <;> intro run <;> simp only [exec_test, rules] <;>
    rcases (c.outcome custom run.game).anomaly with _ | a
  · rfl
  · rfl
  · exact Run.Extends.refl run
  · exact Run.Extends.note run _
  · rfl
  · exact Run.Extends.refl _

theorem agrees_tally (target : String) :
    Agrees (σ := σ) UInt32 (tally (rules maxDepth custom overflow true) target)
      (tally (rules maxDepth custom overflow false) target) := by
  constructor <;> intro run <;> simp only [exec_tally, rules] <;>
    rcases Tally.parse? target with _ | t
  · rfl
  · rfl
  · exact Run.Extends.note run _
  · exact Run.Extends.refl run
  · exact Run.Extends.refl _
  · rfl

theorem agrees_count {entry : Report} (hentry : entry.diagnostics = []) :
    Agrees (σ := σ) Unit (count (rules maxDepth custom overflow true) entry)
      (count (rules maxDepth custom overflow false) entry) := by
  have hsame : count (σ := σ) (rules maxDepth custom overflow false) entry =
      count (rules maxDepth custom overflow true) entry := rfl
  rw [hsame]
  apply agrees_self <;> intro run <;> rw [exec_count] <;> split <;> simp [Report.add, hentry]

end

theorem agrees_applyBasic (h : Handler σ) (b : Basic) :
    Agrees Unit (applyBasic h b) (applyBasic h b) := by
  apply agrees_self <;> intro run <;> rw [exec_applyBasic] <;>
    rcases h.applyBasic b run.game run.player with ⟨_ | _, game, player⟩ <;> simp

theorem agrees_makeChoice (h : Handler σ) (c : Choice) :
    Agrees (List Nat) (makeChoice h c) (makeChoice h c) := by
  apply agrees_self <;> intro run <;> rw [exec_makeChoice] <;>
    rcases h.makeChoice c run.player with ⟨_ | _, player⟩ <;> simp

theorem agrees_choose (maxDepth : UInt32) (custom : Option CustomEvaluator) (overflow : Overflow)
    (h : Handler σ) (c : Choice) :
    Agrees (List (Fin c.options.length)) (choose (rules maxDepth custom overflow true) h c)
      (choose (rules maxDepth custom overflow false) h c) := by
  refine agrees_bind (agrees_makeChoice h c) fun is => agrees_bind (agrees_count rfl) fun _ => ?_
  cases hs : select (List.finRange c.options.length) is with
  | ok ps => exact agrees_pure ps
  | error e =>
    obtain ⟨i, -, -, rfl⟩ := exists_of_select_eq_error hs
    exact agrees_self (fun _ => List.prefix_rfl) (fun _ => rfl) (by simp)

end Resolve

open Resolve

theorem Effect.agrees_resolveAt {σ : Type} (maxDepth : UInt32) (custom : Option CustomEvaluator)
    (overflow : Overflow) (h : Handler σ) (e : Effect) :
    Agrees Unit (resolveAt (rules maxDepth custom overflow true) h 0 e)
      (resolveAt (rules maxDepth custom overflow false) h 0 e) := by
  refine resolveAt_related sequential_agrees [] e
    fun x _ => ⟨agrees_checkDepth _, fun _ => agrees_count, ?_⟩
  cases x.2 with
  | basic b => exact agrees_applyBasic h b
  | conditional c t f m => exact agrees_test c
  | multi bs d m => exact fun b _ => agrees_test b.1
  | choice d lo hi os m => exact agrees_choose maxDepth custom overflow h ⟨d, lo, hi, os, m⟩
  | forEach t b d m => exact agrees_tally t
  | composite es d m => trivial

/-! ## Whole resolutions -/

/-- What is to be known of a tree that is resolved strictly and leniently. -/
structure Resolution.UpToAnomaly {σ : Type} (strict lenient : Resolution σ) : Prop where
  of_strict_ok : ∀ report, strict.result = .ok report →
    lenient = strict ∧ report.diagnostics = []
  of_lenient_clean : ∀ report, lenient.result = .ok report → report.diagnostics = [] →
    strict = lenient
  of_other_error : ∀ error, strict.result = .error error → (∀ d, error ≠ .anomaly d) →
    lenient = strict
  of_anomaly : ∀ d, strict.result = .error (.anomaly d) → strict.calls <+: lenient.calls ∧
    ∀ report, lenient.result = .ok report → report.diagnostics.head? = some d
  of_lenient_diagnostics : ∀ report d rest, lenient.result = .ok report →
    report.diagnostics = d :: rest → strict.result = .error (.anomaly d)

theorem Resolution.upToAnomaly_of_eq {σ : Type} {o : Except ResolveError Unit × Run σ}
    (hquiet : o.2.report.diagnostics = []) (hanomaly : ∀ d, o.1 ≠ .error (.anomaly d)) :
    UpToAnomaly (ofOutcome o) (ofOutcome o) where
  of_strict_ok report hr := by
    rw [ofOutcome_result_eq_ok_iff] at hr
    exact ⟨rfl, hr.2 ▸ hquiet⟩
  of_lenient_clean _ _ _ := rfl
  of_other_error _ _ _ := rfl
  of_anomaly d hd := absurd (ofOutcome_result_eq_error_iff.mp hd) (hanomaly d)
  of_lenient_diagnostics report d rest hr hd := by
    rw [ofOutcome_result_eq_ok_iff] at hr
    rw [← hr.2, hquiet] at hd
    cases hd

theorem Resolution.upToAnomaly_of_extends {σ : Type} {d : Diagnostic} {run : Run σ}
    {o : Except ResolveError Unit × Run σ} (hquiet : run.report.diagnostics = [])
    (hext : (run.note d).Extends o.2) :
    UpToAnomaly (ofOutcome (.error (.anomaly d), run)) (ofOutcome o) := by
  have hfirst {report : Report} (hr : (ofOutcome o).result = .ok report) :
      ∃ rest, report.diagnostics = d :: rest := by
    obtain ⟨rest, hrest⟩ := hext.diagnostics
    rw [ofOutcome_result_eq_ok_iff] at hr
    refine ⟨rest, ?_⟩
    rw [← hr.2, ← hrest, Run.note, hquiet]
    rfl
  constructor
  · intro report hr
    cases hr
  · intro report hr hclean
    obtain ⟨rest, hrest⟩ := hfirst hr
    rw [hrest] at hclean
    cases hclean
  · intro error he hother
    cases he
    exact absurd rfl (hother d)
  · intro d' hd'
    cases hd'
    refine ⟨hext.calls, fun report hr => ?_⟩
    obtain ⟨rest, hrest⟩ := hfirst hr
    rw [hrest]
    rfl
  · intro report d' rest' hr hd'
    obtain ⟨rest, hrest⟩ := hfirst hr
    rw [hrest] at hd'
    cases hd'
    rfl

/-- The same tree resolved strictly and leniently: where one of them meets no anomaly, or ends for
another reason, both are the same; and where the strict one ends with an anomaly, the lenient one
has made the same calls by then and has that anomaly as its first diagnostic. -/
theorem Effect.resolve_upToAnomaly {σ : Type} (e : Effect) (maxDepth : UInt32)
    (custom : Option CustomEvaluator) (overflow : Overflow) (h : Handler σ) (g : GameState)
    (s : σ) :
    (e.resolve (rules maxDepth custom overflow true) h g s).UpToAnomaly
      (e.resolve (rules maxDepth custom overflow false) h g s) := by
  have hag := e.agrees_resolveAt maxDepth custom overflow h
  have hquiet := hag.quiet (.start g s)
  have hfol := hag.follows (.start g s)
  rw [resolve_eq, resolve_eq]
  generalize exec (resolveAt (rules maxDepth custom overflow true) h 0 e) (.start g s) = strict at *
  generalize exec (resolveAt (rules maxDepth custom overflow false) h 0 e) (.start g s) =
    lenient at *
  obtain ⟨error | _, run⟩ := strict
  · cases error with
    | anomaly d => exact Resolution.upToAnomaly_of_extends hquiet hfol
    | _ =>
      obtain rfl : lenient = _ := hfol
      exact Resolution.upToAnomaly_of_eq hquiet (by simp)
  · obtain rfl : lenient = _ := hfol
    exact Resolution.upToAnomaly_of_eq hquiet (by simp)

end CityCards
