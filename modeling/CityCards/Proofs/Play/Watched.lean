import CityCards.Effect.Place
import CityCards.Proofs.Play.Steps

/-!
# Watching a resolution

A resolution tells what the handler was asked and what was counted, but not by which nodes it came.
So it is watched: something is done whenever a node is entered, before anything else is done there,
and what is done may depend on the place of the node. Doing nothing gives the resolution itself.

Main definitions:
* `Effect.watchAt`: the resolution of a tree that stands at a place, watched.

Results:
* `Effect.watchAt_choice`: a choice resolves the options at the chosen positions.
* `Effect.watchAt_pure`: a resolution that is watched by doing nothing is the resolution.
-/

namespace CityCards

namespace Effect

open Resolve

variable {σ : Type}

mutual

/-- Resolves a tree that stands at a place, and does `enter` at the place of every node that is
entered. -/
def watchAt (enter : Place → Resolve σ Unit) (r : Rules) (h : Handler σ) (p : Place) :
    Effect → Resolve σ Unit
  | .basic b => do
    enter p
    checkDepth r p.length
    Resolve.applyBasic h b
    count r .applied
  | .conditional c t f _ => do
    enter p
    checkDepth r p.length
    if ← test r c then watchAt enter r h (p ++ [.ifTrue]) t
    else watchOption enter r h (p ++ [.ifFalse]) f
  | .multi bs d _ => do
    enter p
    checkDepth r p.length
    let taken ← watchBranches enter r h p 0 bs
    if taken then pure () else watchOption enter r h (p ++ [.default]) d
  | .choice d lo hi os m => do
    enter p
    checkDepth r p.length
    let is ← Resolve.makeChoice h ⟨d, lo, hi, os, m⟩
    count r .chosen
    match select (watchEach enter r h p .option 0 os) is with
    | .ok ms => inOrder ms
    | .error e => throw e
  | .forEach t b _ _ => do
    enter p
    checkDepth r p.length
    let n ← tally r t
    count r (.repeating n)
    repeated (watchAt enter r h (p ++ [.body]) b) n.toNat
  | .composite es _ _ => do
    enter p
    checkDepth r p.length
    inOrder (watchEach enter r h p .member 0 es)
termination_by structural e => e

/-- Resolves a tree that may be missing. -/
def watchOption (enter : Place → Resolve σ Unit) (r : Rules) (h : Handler σ) (p : Place) :
    Option Effect → Resolve σ Unit
  | none => pure ()
  | some e => watchAt enter r h p e
termination_by structural o => o

/-- The resolutions of trees that stand below a place, numbered from `i` on. -/
def watchEach (enter : Place → Resolve σ Unit) (r : Rules) (h : Handler σ) (p : Place)
    (label : Nat → Segment) (i : Nat) : List Effect → List (Resolve σ Unit)
  | [] => []
  | e :: rest =>
    watchAt enter r h (p ++ [label i]) e :: watchEach enter r h p label (i + 1) rest
termination_by structural es => es

/-- Resolves the first branch whose condition holds, and tells whether there is one. The branches
are numbered from `i` on. -/
def watchBranches (enter : Place → Resolve σ Unit) (r : Rules) (h : Handler σ) (p : Place)
    (i : Nat) : List (Condition × Effect) → Resolve σ Bool
  | [] => pure false
  | (c, e) :: rest => do
    if ← test r c then
      watchAt enter r h (p ++ [.branch i]) e
      return true
    else watchBranches enter r h p (i + 1) rest
termination_by structural bs => bs

end

/-! ## Trees in a list -/

section

variable (enter : Place → Resolve σ Unit) (r : Rules) (h : Handler σ) (p : Place)

theorem watchEach_eq (label : Nat → Segment) (i : Nat) (es : List Effect) :
    watchEach enter r h p label i es =
      (List.finRange es.length).map fun k : Fin es.length =>
        watchAt enter r h (p ++ [label (i + k.val)]) es[k] := by
  induction es generalizing i with
  | nil => simp [watchEach]
  | cons e rest ih =>
    simp [watchEach, ih, List.finRange_succ, Function.comp_def, Nat.add_assoc, Nat.add_comm 1]

theorem watchAt_choice (d : String) (lo hi : UInt32) (os : List Effect) (m : Marks) :
    watchAt enter r h p (.choice d lo hi os m) = (do
      enter p
      checkDepth r p.length
      let ps ← choose r h ⟨d, lo, hi, os, m⟩
      inOrder (ps.map fun k : Fin os.length =>
        watchAt enter r h (p ++ [.option k.val]) os[k])) := by
  rw [watchAt, choose]
  simp only [bind_assoc]
  congr 1
  funext _
  congr 1
  funext _
  congr 1
  funext is
  congr 1
  funext _
  rw [watchEach_eq, select_map]
  cases select (List.finRange os.length) is with
  | error e => simp [Except.map]
  | ok ps => simp [Except.map]

end

/-! ## Doing nothing -/

mutual

/-- A resolution that is watched by doing nothing is the resolution. -/
theorem watchAt_pure (r : Rules) (h : Handler σ) (p : Place) (e : Effect) :
    watchAt (fun _ => pure ()) r h p e = resolveAt r h p.length e := by
  cases e with
  | basic b => simp [watchAt, resolveAt]
  | conditional c t f m =>
    simp [watchAt, resolveAt, watchAt_pure r h _ t, watchOption_pure r h _ f]
  | multi bs d m =>
    simp [watchAt, resolveAt, watchBranches_pure r h p 0 bs, watchOption_pure r h _ d]
  | choice d lo hi os m =>
    rw [watchAt, resolveAt, watchEach_pure r h p .option 0 os]
    exact pure_bind () _
  | forEach t b d m => simp [watchAt, resolveAt, watchAt_pure r h _ b]
  | composite es d m => simp [watchAt, resolveAt, watchEach_pure r h p .member 0 es]
termination_by structural e

theorem watchOption_pure (r : Rules) (h : Handler σ) (p : Place) (o : Option Effect) :
    watchOption (fun _ => pure ()) r h p o = resolveOption r h p.length o := by
  cases o with
  | none => rfl
  | some e => exact watchAt_pure r h p e
termination_by structural o

theorem watchEach_pure (r : Rules) (h : Handler σ) (p : Place) (label : Nat → Segment) (i : Nat)
    (es : List Effect) :
    watchEach (fun _ => pure ()) r h p label i es = resolveEach r h (p.length + 1) es := by
  cases es with
  | nil => rfl
  | cons e rest =>
    simp [watchEach, resolveEach, watchAt_pure r h _ e, watchEach_pure r h p label _ rest]
termination_by structural es

theorem watchBranches_pure (r : Rules) (h : Handler σ) (p : Place) (i : Nat)
    (bs : List (Condition × Effect)) :
    watchBranches (fun _ => pure ()) r h p i bs = resolveBranches r h (p.length + 1) bs := by
  cases bs with
  | nil => rfl
  | cons b rest =>
    obtain ⟨c, e⟩ := b
    simp [watchBranches, resolveBranches, watchAt_pure r h _ e,
      watchBranches_pure r h p (i + 1) rest]
termination_by structural bs

end

end Effect

end CityCards
