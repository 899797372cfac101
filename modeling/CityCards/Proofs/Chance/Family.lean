import Mathlib.Algebra.GroupWithZero.Nat
import Mathlib.Data.List.Nodup
import CityCards.Chance.Generator

/-!
# Families of generators

Generators are forked off from a root, and others from these, in any order. The seed of a fork lies
its number times a fixed distance away from the seed that it was forked off from. So what separates
a seed from that of the root is the sum of all fork numbers on the way, whichever they are: the
second fork of the root and the first fork of its first fork start from the same seed.

Main definitions:
* `Relative`: a generator with the fork numbers on the way to it.
* `Family.fork`: forks off a generator from one of a family.
* `Family.grown`: the family after any forks in a row.
* `Family.Numbered`: what is known of a family after so many forks.

Results:
* `forkDistance_mul_injective`: different numbers of distances lead to different seeds.
* `Family.numbered_fork`, `Family.numbered_grown`: the invariant is kept by a fork and by all forks.
* `Family.Numbered.seed_eq_seed_iff`: two generators of a family have the same seed exactly if the
  fork numbers on the way to them have the same sum.
* `Family.seeds_nodup_iff`: all seeds of a family are different exactly if all these sums are.
* `Family.seeds_not_nodup`: two generators of a family can have the same seed.
-/

namespace CityCards

/-- The distance between forks is odd, so that multiples of it can be told apart. -/
theorem forkDistance_mul_injective {a b : UInt64} (h : a * forkDistance = b * forkDistance) :
    a = b := by
  have hinverse : forkDistance * 0xF1DE83E19937733D = 1 := by decide
  calc
    a = a * forkDistance * 0xF1DE83E19937733D := by
      rw [UInt64.mul_assoc, hinverse, UInt64.mul_one]
    _ = b * forkDistance * 0xF1DE83E19937733D := by rw [h]
    _ = b := by rw [UInt64.mul_assoc, hinverse, UInt64.mul_one]

/-- A generator of a family, and the number of each fork on the way to it from the root. -/
structure Relative where
  lineage : List Nat
  generator : Generator
  deriving DecidableEq

namespace Relative

/-- The generator that is forked off next. -/
def child (a : Relative) : Relative :=
  ⟨a.lineage ++ [a.generator.fork.2.forks.toNat], a.generator.fork.1⟩

/-- The same generator once it has counted this fork. -/
def counted (a : Relative) : Relative := { a with generator := a.generator.fork.2 }

theorem sum_lineage_child (a : Relative) :
    a.child.lineage.sum = a.lineage.sum + a.counted.generator.forks.toNat := by
  simp [child, counted]

end Relative

/-- Generators that stem from one root, in the order in which they were forked off. -/
abbrev Family := List Relative

namespace Family

/-- The root alone. -/
def root (seed : UInt64) : Family := [⟨[], .ofSeed seed⟩]

/-- Forks off a generator from the one at that place. -/
def fork (f : Family) (i : Nat) : Family :=
  match f[i]? with
  | some a => f.set i a.counted ++ [a.child]
  | none => f

/-- The family of a root, after forks from the generators at these places in turn. -/
def grown (seed : UInt64) (places : List Nat) : Family := places.foldl fork (root seed)

/-! ## One fork -/

/-- All that a fork does: one generator counts it, and its child comes last. -/
theorem fork_cases (f : Family) (i : Nat) :
    f.fork i = f ∨
      ∃ xs a ys, f = xs ++ a :: ys ∧ f.fork i = xs ++ a.counted :: ys ++ [a.child] := by
  cases ha : f[i]? with
  | none => exact Or.inl (by rw [fork, ha])
  | some a =>
    obtain ⟨hi, rfl⟩ := List.getElem?_eq_some_iff.mp ha
    refine Or.inr ⟨f.take i, f[i], f.drop (i + 1), by simp, ?_⟩
    rw [fork, ha]
    simp only [List.set_eq_take_append_cons_drop, if_pos hi]

/-- What is known of a family after so many forks. The seed of every generator is as far from that
of the root as the sum of the fork numbers on the way to it says. These sums are no greater than
there have been forks. No two generators have the same lineage, and a lineage ends with a number
that the generator it comes from has given. -/
structure Numbered (seed : UInt64) (count : Nat) (f : Family) : Prop where
  seed_eq : ∀ a ∈ f, a.generator.seed = seed + UInt64.ofNat a.lineage.sum * forkDistance
  sum_le : ∀ a ∈ f, a.lineage.sum + a.generator.forks.toNat ≤ count
  lineages_nodup : (f.map Relative.lineage).Nodup
  exists_parent : ∀ l n, l ++ [n] ∈ f.map Relative.lineage →
    ∃ a ∈ f, a.lineage = l ∧ n ≤ a.generator.forks.toNat

theorem numbered_root (seed : UInt64) : Numbered seed 0 (root seed) where
  seed_eq := by simp [root, Generator.ofSeed]
  sum_le := by simp [root, Generator.ofSeed]
  lineages_nodup := by simp [root]
  exists_parent := by simp [root]

section

variable {seed : UInt64} {count : Nat} {f xs ys : Family} {a : Relative}

theorem Numbered.mono (h : Numbered seed count f) : Numbered seed (count + 1) f :=
  { h with sum_le := fun b hb => Nat.le_succ_of_le (h.sum_le b hb) }

/-- As long as there are fewer forks than seeds, the numbers do not wrap around. -/
theorem Numbered.forks_counted (h : Numbered seed count f) (ha : a ∈ f)
    (hcount : count + 1 < 2 ^ 64) :
    a.counted.generator.forks.toNat = a.generator.forks.toNat + 1 := by
  have hle := h.sum_le a ha
  show (a.generator.forks + 1).toNat = _
  rw [UInt64.toNat_add]
  exact Nat.mod_eq_of_lt (by simp; omega)

theorem Numbered.seed_child (h : Numbered seed count f) (ha : a ∈ f) :
    a.child.generator.seed = seed + UInt64.ofNat a.child.lineage.sum * forkDistance := by
  rw [a.sum_lineage_child, UInt64.ofNat_add, UInt64.ofNat_toNat, UInt64.add_mul, ← UInt64.add_assoc,
    ← h.seed_eq a ha]
  rfl

/-- The child has a lineage of its own, for its number has not been given before. -/
theorem Numbered.lineage_child_not_mem (h : Numbered seed count f) (ha : a ∈ f)
    (hcount : count + 1 < 2 ^ 64) : a.child.lineage ∉ f.map Relative.lineage := by
  intro hold
  obtain ⟨b, hb, hlineage, hle⟩ := h.exists_parent _ _ hold
  obtain rfl : b = a := List.inj_on_of_nodup_map h.lineages_nodup hb ha hlineage
  have hnext : b.generator.fork.2.forks.toNat = b.generator.forks.toNat + 1 :=
    h.forks_counted ha hcount
  omega

/-- One fork keeps the invariant. -/
theorem Numbered.step (h : Numbered seed count (xs ++ a :: ys)) (hcount : count + 1 < 2 ^ 64) :
    Numbered seed (count + 1) (xs ++ a.counted :: ys ++ [a.child]) := by
  have ha : a ∈ xs ++ a :: ys := by simp
  have hnext := h.forks_counted ha hcount
  have hlineages : (xs ++ a.counted :: ys ++ [a.child]).map Relative.lineage =
      (xs ++ a :: ys).map Relative.lineage ++ [a.child.lineage] := by
    simp [Relative.counted]
  have hcases : ∀ b ∈ xs ++ a.counted :: ys ++ [a.child],
      b ∈ xs ++ a :: ys ∨ b = a.counted ∨ b = a.child := by
    simp only [List.mem_append, List.mem_cons, List.not_mem_nil, or_false]
    tauto
  constructor
  · intro b hb
    rcases hcases b hb with hold | rfl | rfl
    · exact h.seed_eq b hold
    · exact h.seed_eq a ha
    · exact h.seed_child ha
  · intro b hb
    rcases hcases b hb with hold | rfl | rfl
    · exact Nat.le_succ_of_le (h.sum_le b hold)
    · have hle := h.sum_le a ha
      show a.lineage.sum + a.counted.generator.forks.toNat ≤ count + 1
      omega
    · have hle := h.sum_le a ha
      have hsum := a.sum_lineage_child
      show a.child.lineage.sum + 0 ≤ count + 1
      omega
  · rw [hlineages, ← List.concat_eq_append]
    exact h.lineages_nodup.concat (h.lineage_child_not_mem ha hcount)
  · intro l n hmem
    have hcounted : a.counted ∈ xs ++ a.counted :: ys ++ [a.child] := by simp
    rw [hlineages] at hmem
    rcases List.mem_append.mp hmem with hold | hnew
    · obtain ⟨b, hb, hl, hn⟩ := h.exists_parent l n hold
      by_cases hba : b = a
      · subst hba
        exact ⟨b.counted, hcounted, hl, by omega⟩
      · refine ⟨b, ?_, hl, hn⟩
        simp only [List.mem_append, List.mem_cons] at hb ⊢
        tauto
    · obtain ⟨hl, hn⟩ := List.append_inj' (List.mem_singleton.mp hnew) rfl
      cases hn
      exact ⟨a.counted, hcounted, hl.symm, Nat.le_refl _⟩

theorem numbered_fork (h : Numbered seed count f) (hcount : count + 1 < 2 ^ 64) (i : Nat) :
    Numbered seed (count + 1) (f.fork i) := by
  rcases fork_cases f i with hsame | ⟨xs, a, ys, rfl, hfork⟩
  · rw [hsame]
    exact h.mono
  · rw [hfork]
    exact h.step hcount

end

/-! ## Any forks in a row -/

theorem numbered_foldl {seed : UInt64} {count : Nat} {f : Family} (h : Numbered seed count f)
    (places : List Nat) (hcount : count + places.length < 2 ^ 64) :
    Numbered seed (count + places.length) (places.foldl fork f) := by
  induction places generalizing count f with
  | nil => exact h
  | cons i rest ih =>
    rw [List.length_cons] at hcount ⊢
    have hstep := ih (numbered_fork h (by omega) i) (by omega)
    rwa [Nat.add_right_comm, Nat.add_assoc] at hstep

theorem numbered_grown (seed : UInt64) {places : List Nat} (hcount : places.length < 2 ^ 64) :
    Numbered seed places.length (grown seed places) := by
  have h := numbered_foldl (numbered_root seed) places (by omega)
  rwa [Nat.zero_add] at h

/-- The sums of fork numbers are small enough to be told apart by the seeds. -/
theorem Numbered.seed_eq_seed_iff {seed : UInt64} {count : Nat} {f : Family} {a b : Relative}
    (h : Numbered seed count f) (hcount : count < 2 ^ 64) (ha : a ∈ f) (hb : b ∈ f) :
    a.generator.seed = b.generator.seed ↔ a.lineage.sum = b.lineage.sum := by
  rw [h.seed_eq a ha, h.seed_eq b hb, UInt64.add_right_inj]
  constructor
  · intro heq
    have hla := h.sum_le a ha
    have hlb := h.sum_le b hb
    have hsums := congrArg UInt64.toNat (forkDistance_mul_injective heq)
    rwa [UInt64.toNat_ofNat_of_lt' (by simp [UInt64.size]; omega),
      UInt64.toNat_ofNat_of_lt' (by simp [UInt64.size]; omega)] at hsums
  · intro heq
    rw [heq]

/-- All generators of a family have different seeds exactly if the sums of fork numbers on the way
to them are all different. Forks of one generator always have, but a fork of a fork may have the sum
of a later fork. -/
theorem seeds_nodup_iff (seed : UInt64) {places : List Nat} (hcount : places.length < 2 ^ 64) :
    (((grown seed places).map fun a => a.generator.seed).Nodup ↔
      ((grown seed places).map fun a => a.lineage.sum).Nodup) ∧
    (∀ a ∈ grown seed places, ∀ b ∈ grown seed places,
      (a.generator.seed = b.generator.seed ↔ a.lineage.sum = b.lineage.sum)) ∧
    (∀ a ∈ grown seed places, ∀ b ∈ grown seed places, ∀ l m n, a.lineage = l ++ [m] →
      b.lineage = l ++ [n] → a.generator.seed = b.generator.seed → a = b) := by
  have h := numbered_grown seed hcount
  have hseed : ∀ a ∈ grown seed places, ∀ b ∈ grown seed places,
      (a.generator.seed = b.generator.seed ↔ a.lineage.sum = b.lineage.sum) :=
    fun a ha b hb => h.seed_eq_seed_iff hcount ha hb
  refine ⟨?_, hseed, ?_⟩
  · have hnodup := h.lineages_nodup.of_map
    rw [List.nodup_map_iff_inj_on hnodup, List.nodup_map_iff_inj_on hnodup]
    constructor
    · exact fun hinj a ha b hb hsum => hinj a ha b hb ((hseed a ha b hb).mpr hsum)
    · exact fun hinj a ha b hb heq => hinj a ha b hb ((hseed a ha b hb).mp heq)
  · intro a ha b hb l m n hal hbl heq
    have hsum := (hseed a ha b hb).mp heq
    have hmn : m = n := by simpa [hal, hbl] using hsum
    exact List.inj_on_of_nodup_map h.lineages_nodup ha hb (by rw [hal, hbl, hmn])

/-- Three forks of the root, of which the last is forked once more. -/
theorem seeds_nodup_of_last_forked : [0, 0, 0, 3].length < 2 ^ 64 ∧
    ((grown 42 [0, 0, 0, 3]).map fun a => a.generator.seed).Nodup :=
  have hcount : [0, 0, 0, 3].length < 2 ^ 64 := by decide
  ⟨hcount, (seeds_nodup_iff 42 hcount).1.mpr (by decide)⟩

/-- The second fork of the root and the first fork of its first fork are the same generator. -/
theorem seeds_not_nodup : ¬((grown 0 [0, 0, 1]).map fun a => a.generator.seed).Nodup ∧
    ((grown 0 [0, 0, 1]).map Relative.lineage = [[], [1], [2], [1, 1]]) ∧
    (grown 0 [0, 0, 1])[2]?.map Relative.generator =
      (grown 0 [0, 0, 1])[3]?.map Relative.generator := by
  decide

end Family

end CityCards
