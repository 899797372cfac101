import CityCards.Chance.Chooser
import Mathlib.Data.BitVec
import Mathlib.Data.FinEnum
import Mathlib.Data.Set.Card

/-!
# Draws that do not end

A draw is rejected at most as often as there are positions in a keystream. This is no limit at all:
attempts that have been rejected so often come to positions where they were rejected before, and go
on like this for ever. So a draw without a result is one that has none under any limit.

The argument counts the positions from which some number of attempts is enough. There are the more
of them the more attempts may be made, but once an attempt more brings no new position, none ever
will; and there are no more positions to bring than a keystream has.

Main definitions:
* `enoughFrom`: the positions from which a number of attempts is enough.
* `Draw.Settled`: what a draw yields under any limit, it yields under the limit of a keystream.
* `Generator.Endless`: a draw that has no result, however often it may be rejected.

Results:
* `Draw.Settled.untilAccepted`: attempts that are settled can be made until there is a result.
* `Choice.settled_choose`: random selections are settled.
* `Generator.draw_eq_none_iff`: a settled draw has no result exactly if it does not end.
-/

namespace CityCards

/-! ## Attempts -/

section

variable {α : Type} {attempt : Draw (Option α)} {s : Supply}

theorem retried_succ (attempt : Draw (Option α)) (t : Nat) (s : Supply) (p : Position) :
    retried attempt (t + 1) s p =
      match attempt s p with
      | none => none
      | some (some a, q) => some (a, q)
      | some (none, q) => retried attempt t s q := by
  change ((attempt s p).bind _) = _
  rcases attempt s p with _ | ⟨_ | a, q⟩ <;> rfl

/-- What some attempts yield, more attempts yield as well. -/
theorem retried_add {t : Nat} {p : Position} {r : α × Position}
    (h : retried attempt t s p = some r) (k : Nat) : retried attempt (t + k) s p = some r := by
  induction t generalizing p with
  | zero => cases h
  | succ t ih =>
    rw [retried_succ] at h
    rw [Nat.succ_add, retried_succ]
    generalize attempt s p = outcome at h ⊢
    obtain _ | ⟨_ | a, q⟩ := outcome
    · exact h
    · exact ih h
    · exact h

/-- The positions from which `t` attempts are enough. -/
def enoughFrom (attempt : Draw (Option α)) (s : Supply) (t : Nat) : Set Position :=
  fun p => (retried attempt t s p).isSome

theorem mem_enoughFrom_iff {t : Nat} {p : Position} :
    p ∈ enoughFrom attempt s t ↔ ∃ r, retried attempt t s p = some r := Option.isSome_iff_exists

theorem enoughFrom_subset (t : Nat) : enoughFrom attempt s t ⊆ enoughFrom attempt s (t + 1) := by
  intro p hp
  obtain ⟨r, hr⟩ := mem_enoughFrom_iff.mp hp
  exact mem_enoughFrom_iff.mpr ⟨r, retried_add hr 1⟩

/-- From where one attempt more is enough depends on from where those up to now are. -/
theorem enoughFrom_succ {t u : Nat} (h : enoughFrom attempt s t = enoughFrom attempt s u) :
    enoughFrom attempt s (t + 1) = enoughFrom attempt s (u + 1) := by
  ext p
  rw [mem_enoughFrom_iff, mem_enoughFrom_iff, retried_succ, retried_succ]
  rcases attempt s p with _ | ⟨_ | a, q⟩
  · rfl
  · exact (mem_enoughFrom_iff.symm.trans (Set.ext_iff.mp h q)).trans mem_enoughFrom_iff
  · rfl

/-- Either one attempt more brings no new position, or every attempt up to it has brought one. -/
theorem enoughFrom_eq_or_lt (t : Nat) :
    enoughFrom attempt s t = enoughFrom attempt s (t + 1) ∨
      t < (enoughFrom attempt s (t + 1)).ncard := by
  have hgrows {t : Nat} (hne : enoughFrom attempt s t ≠ enoughFrom attempt s (t + 1)) :
      (enoughFrom attempt s t).ncard < (enoughFrom attempt s (t + 1)).ncard :=
    Set.ncard_lt_ncard ((enoughFrom_subset t).ssubset_of_ne hne)
  induction t with
  | zero =>
    by_cases h : enoughFrom attempt s 0 = enoughFrom attempt s 1
    · exact Or.inl h
    · exact Or.inr (Nat.zero_lt_of_lt (hgrows h))
  | succ t ih =>
    by_cases h : enoughFrom attempt s (t + 1) = enoughFrom attempt s (t + 1 + 1)
    · exact Or.inl h
    · rcases ih with heq | hlt
      · exact absurd (enoughFrom_succ heq) h
      · exact Or.inr (Nat.lt_of_le_of_lt hlt (hgrows h))

theorem card_position : Nat.card Position = rejectionLimit := by
  rw [Nat.card_congr BitVec.equivFin.toEquiv, Nat.card_eq_fintype_card, Fintype.card_fin,
    rejectionLimit]

/-- As many attempts as there are positions are as good as any number of attempts. -/
theorem enoughFrom_limit (k : Nat) :
    enoughFrom attempt s (rejectionLimit + k) = enoughFrom attempt s rejectionLimit := by
  have hstable :
      enoughFrom attempt s rejectionLimit = enoughFrom attempt s (rejectionLimit + 1) := by
    refine (enoughFrom_eq_or_lt rejectionLimit).resolve_right (Nat.not_lt_of_le ?_)
    rw [← card_position]
    exact Set.ncard_le_card _
  induction k with
  | zero => rfl
  | succ k ih => exact (enoughFrom_succ ih).trans hstable.symm

theorem retried_limit {t : Nat} {p : Position} {r : α × Position}
    (h : retried attempt t s p = some r) : retried attempt rejectionLimit s p = some r := by
  rcases Nat.le_total t rejectionLimit with hle | hle
  · obtain ⟨k, hk⟩ := Nat.exists_eq_add_of_le hle
    rw [hk]
    exact retried_add h k
  · obtain ⟨k, rfl⟩ := Nat.exists_eq_add_of_le hle
    obtain ⟨r', hr'⟩ : ∃ r', retried attempt rejectionLimit s p = some r' := by
      rw [← mem_enoughFrom_iff, ← enoughFrom_limit k, mem_enoughFrom_iff]
      exact ⟨r, h⟩
    rw [hr', ← h, retried_add hr' k]

end

/-! ## Settled draws -/

namespace Draw

/-- What the draw yields under any limit, it yields under the limit of a keystream. -/
def Settled {α : Type} (d : Draw α) : Prop :=
  ∀ words limit p r, d ⟨words, limit⟩ p = some r → d ⟨words, rejectionLimit⟩ p = some r

variable {α β : Type}

theorem settled_pure (a : α) : Settled (pure a) := fun _ _ _ _ h => h

theorem Settled.bind {d : Draw α} {f : α → Draw β} (hd : d.Settled) (hf : ∀ a, (f a).Settled) :
    Settled (d >>= f) := by
  intro words limit p r h
  change ((d ⟨words, limit⟩ p).bind fun x => f x.1 ⟨words, limit⟩ x.2) = some r at h
  change ((d ⟨words, rejectionLimit⟩ p).bind fun x => f x.1 ⟨words, rejectionLimit⟩ x.2) = some r
  obtain ⟨⟨a, q⟩, ha, hr⟩ := Option.bind_eq_some_iff.mp h
  exact Option.bind_eq_some_iff.mpr ⟨(a, q), hd _ _ _ _ ha, hf a _ _ _ _ hr⟩

theorem Settled.retried {d : Draw (Option α)} (hd : d.Settled) (t : Nat) :
    Settled (retried d t) := by
  induction t with
  | zero => exact nofun
  | succ t ih =>
    refine hd.bind fun o => ?_
    cases o with
    | none => exact ih
    | some a => exact settled_pure a

/-- Attempts that are settled can be made until there is a result. -/
theorem Settled.untilAccepted {d : Draw (Option α)} (hd : d.Settled) :
    Settled (untilAccepted d) :=
  fun words limit p r h => retried_limit (hd.retried limit words limit p r h)

end Draw

open Draw

/-! ## Numbers and picks -/

theorem settled_drawNumber (w : Width) : (drawNumber w).Settled := by
  intro words limit p r h
  cases w <;> exact h

theorem settled_drawScaled (w : Width) (n zone : Nat) : (drawScaled w n zone).Settled :=
  (settled_drawNumber w).bind fun _ => settled_pure _

theorem settled_drawBelow (w : Width) (n : Nat) : (drawBelow w n).Settled :=
  (settled_drawScaled w n _).untilAccepted

theorem settled_drawRange (w : Width) (low high : Nat) : (drawRange w low high).Settled := by
  unfold drawRange
  dsimp only
  split
  · exact settled_drawNumber w
  · exact (settled_drawScaled w _ _).untilAccepted.bind fun _ => settled_pure _

theorem settled_exchangeAhead (len count i : Nat) (a : Array Nat) :
    (exchangeAhead len count i a).Settled := by
  induction count generalizing i a with
  | zero => exact settled_pure a
  | succ count ih => exact (settled_drawRange _ _ _).bind fun j => ih _ _

theorem settled_exchangeBehind (i : Nat) (a : Array Nat) : (exchangeBehind i a).Settled := by
  induction i generalizing a with
  | zero => exact settled_pure a
  | succ i ih => exact (settled_drawRange _ _ _).bind fun j => ih _

theorem settled_growPicks (put : List Nat → Nat → Nat → List Nat) (count j : Nat)
    (picks : List Nat) : (growPicks put count j picks).Settled := by
  induction count generalizing j picks with
  | zero => exact settled_pure picks
  | succ count ih => exact (settled_drawRange _ _ _).bind fun t => ih _ _

theorem settled_drawAllNew (w : Width) (len count : Nat) (picks : List Nat) :
    (drawAllNew w len count picks).Settled := by
  induction count generalizing picks with
  | zero => exact settled_pure _
  | succ count ih =>
    have hunpicked : (drawUnpicked w len picks).Settled :=
      (settled_drawBelow w len).bind fun _ => settled_pure _
    exact hunpicked.untilAccepted.bind fun p => ih _

theorem settled_pickInPlace (len amount : Nat) : (pickInPlace len amount).Settled :=
  (settled_exchangeAhead _ _ _ _).bind fun _ => settled_pure _

theorem settled_pickGrowing (len amount : Nat) : (pickGrowing len amount).Settled := by
  unfold pickGrowing
  split
  · exact settled_growPicks _ _ _ _
  · exact (settled_growPicks _ _ _ _).bind fun _ =>
      (settled_exchangeBehind _ _).bind fun _ => settled_pure _

theorem settled_pickDistinct (len amount : Nat) : (pickDistinct len amount).Settled := by
  unfold pickDistinct
  dsimp only
  repeat' split
  · exact settled_drawAllNew _ _ _ _
  · exact settled_pickInPlace _ _
  · exact settled_pickGrowing _ _
  · exact settled_pickInPlace _ _
  · exact settled_drawAllNew _ _ _ _

theorem settled_countBetween (low high : Nat) : (Generator.countBetween low high).Settled := by
  unfold Generator.countBetween
  split
  · exact settled_pure low
  · exact settled_drawRange _ _ _

theorem Choice.settled_choose (c : Choice) : c.choose.Settled :=
  (settled_countBetween _ _).bind fun _ => settled_pickDistinct _ _

/-! ## Draws from generators -/

namespace Generator

variable {α : Type}

/-- However often it may be rejected, the draw from the generator has no result. -/
def Endless (g : Generator) (d : Draw α) : Prop :=
  ∀ limit, d ⟨keystream g.seed, limit⟩ g.position = none

theorem draw_eq_none_iff {d : Draw α} (hd : d.Settled) (g : Generator) :
    g.draw d = none ↔ g.Endless d := by
  rw [draw, Option.map_eq_none_iff]
  constructor
  · intro hnone limit
    by_contra hsome
    obtain ⟨r, hr⟩ := Option.ne_none_iff_exists'.mp hsome
    cases hnone.symm.trans (hd _ _ _ _ hr)
  · exact fun hendless => hendless rejectionLimit

end Generator

end CityCards
