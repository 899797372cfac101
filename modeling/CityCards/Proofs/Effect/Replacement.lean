import CityCards.Proofs.Effect.Places

/-!
# Replacing a part of a tree

The tree below a node is replaced by another, and everything around it is kept. Where a place leads
to no node, there is nothing to replace.

Main definitions:
* `Effect.modifyChild`: applies a function to the child that a segment leads to.
* `Effect.modifyAt`: applies a function to the tree that stands at a place.
* `Effect.replaceAt`: puts a tree in the place of the one that stands there.

Results:
* `Effect.at?_replaceAt`: at the place and below there are the nodes of the new tree.
* `Effect.map_at?_modifyAt`: elsewhere there are the same nodes, apart from what is below them.
-/

namespace CityCards.Effect

/-- Applies a function to the child of the root that a segment leads to. -/
def modifyChild (f : Effect → Effect) : Segment → Effect → Effect
  | .ifTrue, .conditional c t o m => .conditional c (f t) o m
  | .ifFalse, .conditional c t o m => .conditional c t (o.map f) m
  | .branch i, .multi bs d m => .multi (bs.modify i fun b => (b.1, f b.2)) d m
  | .default, .multi bs d m => .multi bs (d.map f) m
  | .option i, .choice d lo hi os m => .choice d lo hi (os.modify i f) m
  | .body, .forEach t b d m => .forEach t (f b) d m
  | .member i, .composite es d m => .composite (es.modify i f) d m
  | _, e => e

/-- Applies a function to the tree that stands at a place. -/
def modifyAt (f : Effect → Effect) : Place → Effect → Effect
  | [], e => f e
  | s :: rest, e => modifyChild (modifyAt f rest) s e

/-- Puts a tree in the place of the one that stands there. -/
def replaceAt (e : Effect) (p : Place) (new : Effect) : Effect := modifyAt (fun _ => new) p e

/-! ## One segment -/

section

variable (f : Effect → Effect)

theorem child?_modifyChild_self (s : Segment) (e : Effect) :
    (modifyChild f s e).child? s = (e.child? s).map f := by
  cases e with
  | multi bs d m =>
    cases s with
    | branch i => simp [modifyChild, child?, Function.comp_def]
    | _ => rfl
  | _ => cases s <;> simp [modifyChild, child?]

theorem child?_modifyChild_of_ne {s t : Segment} (h : t ≠ s) (e : Effect) :
    (modifyChild f s e).child? t = e.child? t := by
  cases e <;> cases s <;> cases t <;> simp_all [modifyChild, child?, Ne.symm]

end

/-! ## A whole place -/

/-- At the place and below there are the nodes of the changed tree. -/
theorem at?_modifyAt (f : Effect → Effect) (e : Effect) (p q : Place) :
    (modifyAt f p e).at? (p ++ q) = (e.at? p).bind fun c => (f c).at? q := by
  induction p generalizing e with
  | nil => rfl
  | cons s rest ih =>
    rw [modifyAt, List.cons_append, at?, child?_modifyChild_self, at?, Option.bind_map,
      Option.bind_assoc]
    exact congrArg (e.child? s).bind (funext ih)

/-- Elsewhere there are the same nodes as before, for someone who does not look at what is below
them. -/
theorem map_at?_modifyAt {α : Type} {look : Effect → α}
    (hlook : ∀ f s e, look (modifyChild f s e) = look e) (f : Effect → Effect) (e : Effect)
    {p q : Place} (h : ¬p <+: q) : ((modifyAt f p e).at? q).map look = (e.at? q).map look := by
  induction p generalizing e q with
  | nil => exact absurd List.nil_prefix h
  | cons s rest ih =>
    cases q with
    | nil => exact congrArg some (hlook _ s e)
    | cons t q =>
      rw [modifyAt, at?, at?, Option.map_bind, Option.map_bind]
      by_cases hst : t = s
      · subst hst
        have hrest : ¬rest <+: q := fun hq => h (List.cons_prefix_cons.mpr ⟨rfl, hq⟩)
        rw [child?_modifyChild_self, Option.bind_map]
        exact congrArg (e.child? t).bind (funext fun c => ih c hrest)
      · rw [child?_modifyChild_of_ne _ hst]

/-- Where there is a node, the new tree and its nodes are found in its place. -/
theorem at?_replaceAt {e old : Effect} {p : Place} (h : e.at? p = some old) (new : Effect)
    (q : Place) : (e.replaceAt p new).at? (p ++ q) = new.at? q := by
  rw [replaceAt, at?_modifyAt, h, Option.bind_some]

end CityCards.Effect
