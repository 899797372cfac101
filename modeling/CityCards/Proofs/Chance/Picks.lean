import CityCards.Chance.Chooser
import Mathlib.Data.List.Perm.Basic

/-!
# What draws yield

Whatever the words are: a number that is drawn lies between its bounds, and numbers that are picked
are distinct, below the bound, and as many as they should be, whichever way they are picked. So a
random answer to a choice consists of options that there are.

Main definitions:
* `Draw.Yields`: a property of what is drawn, if anything is.
* `IsPick`: distinct numbers below a bound.

Results:
* `yields_drawRange`: a number between two bounds lies between them.
* `yields_pickDistinct`: all three ways of picking yield distinct numbers below the bound.
* `Choice.yields_choose`: a random selection consists of distinct options, within the bounds.
* `Choice.choose_within`: what the bounds of a choice mean for a selection.
-/

namespace CityCards

/-! ## Results of draws -/

/-- What is drawn has the property, whatever words there are and however often draws may be
rejected. -/
def Draw.Yields {α : Type} (d : Draw α) (P : α → Prop) : Prop :=
  ∀ s p a q, d s p = some (a, q) → P a

section

variable {α β : Type} {P : α → Prop} {Q : β → Prop}

theorem yields_pure {a : α} (h : P a) : Draw.Yields (pure a) P := by
  intro s p b q hb
  cases hb
  exact h

theorem Draw.Yields.bind {d : Draw α} {f : α → Draw β} (hd : d.Yields P)
    (hf : ∀ a, P a → (f a).Yields Q) : Draw.Yields (d >>= f) Q := by
  intro s p b q hb
  change ((d s p).bind fun r => f r.1 s r.2) = some (b, q) at hb
  obtain ⟨⟨a, p'⟩, ha, hb⟩ := Option.bind_eq_some_iff.mp hb
  exact hf a (hd s p a p' ha) s p' b q hb

theorem Draw.Yields.imp {d : Draw α} {P' : α → Prop} (hd : d.Yields P) (h : ∀ a, P a → P' a) :
    d.Yields P' := fun s p a q ha => h a (hd s p a q ha)

theorem Draw.Yields.draw {d : Draw α} (hd : d.Yields P) {g g' : Generator} {a : α}
    (h : g.draw d = some (a, g')) : P a := by
  obtain ⟨⟨b, q⟩, hb, heq⟩ := Option.map_eq_some_iff.mp h
  cases heq
  exact hd _ _ b q hb

/-- What an attempt yields, it yields however often it is made again. -/
theorem Draw.Yields.untilAccepted {d : Draw (Option α)} (hd : d.Yields fun o => ∀ a ∈ o, P a) :
    (untilAccepted d).Yields P := by
  have hretried (tries : Nat) : (retried d tries).Yields P := by
    induction tries with
    | zero => exact nofun
    | succ tries ih =>
      refine hd.bind fun o ho => ?_
      cases o with
      | none => exact ih
      | some a => exact yields_pure (ho a rfl)
  exact fun s => hretried s.limit s

end

/-! ## Numbers -/

theorem yields_drawNumber (w : Width) : (drawNumber w).Yields (· < w.span) := by
  intro s p v q hv
  cases w with
  | single =>
    cases hv
    exact UInt32.toNat_lt _
  | double =>
    cases hv
    have hlow := (s.words p).toNat_lt
    have hhigh := (s.words (p + 1)).toNat_lt
    simp only [Width.span]
    omega

theorem yields_drawScaled (w : Width) {n : Nat} (hn : 0 < n) (zone : Nat) :
    (drawScaled w n zone).Yields fun o => ∀ i ∈ o, i < n := by
  refine (yields_drawNumber w).bind fun v hv => yields_pure fun i hi => ?_
  split at hi
  · cases hi
    exact Nat.div_lt_of_lt_mul (Nat.mul_lt_mul_of_pos_right hv hn)
  · cases hi

theorem yields_drawBelow (w : Width) {n : Nat} (hn : 0 < n) : (drawBelow w n).Yields (· < n) :=
  (yields_drawScaled w hn _).untilAccepted

theorem yields_drawRange {w : Width} {low high : Nat} (hle : low ≤ high) (hspan : high < w.span) :
    (drawRange w low high).Yields fun v => low ≤ v ∧ v ≤ high := by
  unfold drawRange
  dsimp only
  split
  · refine (yields_drawNumber w).imp fun v hv => ?_
    omega
  · refine (yields_drawScaled w (Nat.succ_pos _) _).untilAccepted.bind fun v hv => yields_pure ?_
    omega

/-! ## Distinct picks -/

/-- Distinct numbers below `len`, as many as `amount`. -/
structure IsPick (len amount : Nat) (picks : List Nat) : Prop where
  length_eq : picks.length = amount
  nodup : picks.Nodup
  lt : ∀ i ∈ picks, i < len

section

variable {len amount : Nat} {picks picks' : List Nat}

theorem isPick_nil (len : Nat) : IsPick len 0 [] := ⟨rfl, List.nodup_nil, nofun⟩

theorem isPick_range (len : Nat) : IsPick len len (List.range len) :=
  ⟨List.length_range, List.nodup_range, fun _ => List.mem_range.mp⟩

theorem IsPick.perm (h : IsPick len amount picks) (hperm : picks'.Perm picks) :
    IsPick len amount picks' :=
  ⟨hperm.length_eq.trans h.length_eq, hperm.nodup_iff.mpr h.nodup,
    fun i hi => h.lt i (hperm.mem_iff.mp hi)⟩

theorem IsPick.take (h : IsPick len amount picks) {k : Nat} (hk : k ≤ amount) :
    IsPick len k (picks.take k) := by
  refine ⟨?_, h.nodup.sublist (List.take_sublist k picks),
    fun i hi => h.lt i (List.mem_of_mem_take hi)⟩
  rw [List.length_take, h.length_eq, Nat.min_eq_left hk]

theorem IsPick.cons (h : IsPick len amount picks) {i : Nat} (hi : i < len) (hnew : i ∉ picks) :
    IsPick len (amount + 1) (i :: picks) :=
  ⟨congrArg (· + 1) h.length_eq, List.nodup_cons.mpr ⟨hnew, h.nodup⟩,
    List.forall_mem_cons.mpr ⟨hi, h.lt⟩⟩

end

/-! ## Exchanging entries -/

theorem toList_swapIfInBounds_perm (a : Array Nat) (i j : Nat) :
    (a.swapIfInBounds i j).toList.Perm a.toList := by
  rw [Array.swapIfInBounds_def]
  split
  · split
    · exact (Array.swap_perm _ _).toList
    · exact .rfl
  · exact .rfl

theorem yields_exchangeAhead (len count i : Nat) (a : Array Nat) :
    (exchangeAhead len count i a).Yields fun b => b.toList.Perm a.toList := by
  induction count generalizing i a with
  | zero => exact yields_pure .rfl
  | succ count ih =>
    have hany : (drawRange .single i (len - 1)).Yields fun _ => True := fun _ _ _ _ _ => trivial
    exact hany.bind fun j _ =>
      (ih (i + 1) _).imp fun b hb => hb.trans (toList_swapIfInBounds_perm a i j)

theorem yields_exchangeBehind (i : Nat) (a : Array Nat) :
    (exchangeBehind i a).Yields fun b => b.toList.Perm a.toList := by
  induction i generalizing a with
  | zero => exact yields_pure .rfl
  | succ i ih =>
    have hany : (drawRange .single 0 (i + 1)).Yields fun _ => True := fun _ _ _ _ _ => trivial
    exact hany.bind fun j _ =>
      (ih _).imp fun b hb => hb.trans (toList_swapIfInBounds_perm a (i + 1) j)

theorem yields_pickInPlace {len amount : Nat} (h : amount ≤ len) :
    (pickInPlace len amount).Yields (IsPick len amount) := by
  refine (yields_exchangeAhead len amount 0 (Array.range len)).bind fun a ha => yields_pure ?_
  rw [Array.toList_range] at ha
  exact ((isPick_range len).perm ha).take h

/-! ## A growing bound -/

theorem insertPick_perm (picks : List Nat) (t j : Nat) :
    (insertPick picks t j).Perm ((if t ∈ picks then j else t) :: picks) := by
  unfold insertPick
  split
  · refine List.perm_middle.trans ?_
    rw [List.takeWhile_append_dropWhile]
  · exact List.perm_append_singleton t picks

theorem appendPick_perm (picks : List Nat) (t j : Nat) :
    (appendPick picks t j).Perm ((if t ∈ picks then j else t) :: picks) :=
  List.perm_append_singleton _ picks

/-- All numbers picked so far are below the bound `j`, so that `j` is new if the number drawn is
not. -/
theorem IsPick.put {j amount : Nat} {picks picks' : List Nat} (h : IsPick j amount picks) {t : Nat}
    (ht : t ≤ j) (hperm : picks'.Perm ((if t ∈ picks then j else t) :: picks)) :
    IsPick (j + 1) (amount + 1) picks' := by
  have hwide : IsPick (j + 1) amount picks :=
    ⟨h.length_eq, h.nodup, fun i hi => Nat.lt_succ_of_lt (h.lt i hi)⟩
  refine (hwide.cons ?_ ?_).perm hperm
  · split <;> omega
  · split
    · exact fun hj => Nat.lt_irrefl j (h.lt j hj)
    · assumption

theorem yields_growPicks {put : List Nat → Nat → Nat → List Nat}
    (hput : ∀ picks t j, (put picks t j).Perm ((if t ∈ picks then j else t) :: picks))
    (count : Nat) {j amount : Nat} {picks : List Nat} (h : IsPick j amount picks)
    (hspan : j + count ≤ 2 ^ 32) :
    (growPicks put count j picks).Yields (IsPick (j + count) (amount + count)) := by
  induction count generalizing j amount picks with
  | zero => exact yields_pure h
  | succ count ih =>
    have hj : j < Width.single.span := by simp only [Width.span]; omega
    refine (yields_drawRange (Nat.zero_le j) hj).bind fun t ht => ?_
    have hnext := ih (h.put ht.2 (hput picks t j)) (by omega)
    rwa [Nat.add_assoc, Nat.add_assoc, Nat.add_comm 1] at hnext

theorem yields_pickGrowing {len amount : Nat} (h : amount ≤ len) (hlen : len < 2 ^ 32) :
    (pickGrowing len amount).Yields (IsPick len amount) := by
  have hgrow {put : List Nat → Nat → Nat → List Nat}
      (hput : ∀ picks t j, (put picks t j).Perm ((if t ∈ picks then j else t) :: picks)) :
      (growPicks put amount (len - amount) []).Yields (IsPick len amount) := by
    have hall := yields_growPicks hput amount (isPick_nil (len - amount)) (by omega)
    rwa [Nat.sub_add_cancel h, Nat.zero_add] at hall
  unfold pickGrowing
  split
  · exact hgrow insertPick_perm
  · refine (hgrow appendPick_perm).bind fun picks hpicks => ?_
    exact (yields_exchangeBehind (amount - 1) picks.toArray).bind fun a ha =>
      yields_pure (hpicks.perm ha)

/-! ## Drawing until a number is new -/

theorem yields_drawUnpicked (w : Width) {len : Nat} (hlen : 0 < len) (picks : List Nat) :
    (drawUnpicked w len picks).Yields fun o => ∀ i ∈ o, i < len ∧ i ∉ picks := by
  refine (yields_drawBelow w hlen).bind fun p hp => yields_pure fun i hi => ?_
  split at hi
  · cases hi
  · cases hi
    exact ⟨hp, by assumption⟩

theorem yields_drawAllNew (w : Width) (count : Nat) {len amount : Nat} {picks : List Nat}
    (h : IsPick len amount picks) (hcount : amount + count ≤ len) :
    (drawAllNew w len count picks).Yields (IsPick len (amount + count)) := by
  induction count generalizing amount picks with
  | zero => exact yields_pure (h.perm (List.reverse_perm picks))
  | succ count ih =>
    have hlen : 0 < len := by omega
    refine (yields_drawUnpicked w hlen picks).untilAccepted.bind fun p ⟨hp, hnew⟩ => ?_
    have hnext := ih (h.cons hp hnew) (by omega)
    rwa [Nat.add_assoc, Nat.add_comm 1] at hnext

theorem yields_pickRejecting (w : Width) {len amount : Nat} (h : amount ≤ len) :
    (pickRejecting w len amount).Yields (IsPick len amount) := by
  have hall := yields_drawAllNew w amount (isPick_nil len) (by omega)
  rwa [Nat.zero_add] at hall

/-! ## Selections -/

theorem yields_pickDistinct (len amount : Nat) :
    (pickDistinct len amount).Yields (IsPick len (min amount len)) := by
  have hle : min amount len ≤ len := Nat.min_le_right amount len
  unfold pickDistinct
  dsimp only
  split
  · exact yields_pickRejecting .double hle
  · have hlen : len < 2 ^ 32 := by omega
    repeat' split
    · exact yields_pickInPlace hle
    · exact yields_pickGrowing hle hlen
    · exact yields_pickInPlace hle
    · exact yields_pickRejecting .single hle

theorem yields_countBetween {low high : Nat} (hle : low ≤ high) (hspan : high < 2 ^ 64) :
    (Generator.countBetween low high).Yields fun n => low ≤ n ∧ n ≤ high := by
  unfold Generator.countBetween
  split
  · exact yields_pure ⟨Nat.le_refl low, hle⟩
  · exact yields_drawRange hle hspan

namespace Choice

theorem upper_lt (c : Choice) : c.upper < 2 ^ 64 := by
  have hmost := c.most.toNat_lt
  have hle : c.upper ≤ c.most.toNat := Nat.min_le_left _ _
  omega

/-- A random selection consists of distinct options that there are, and is as long as the bounds of
the choice allow. -/
theorem yields_choose (c : Choice) :
    c.choose.Yields fun is =>
      ∃ amount, c.lower ≤ amount ∧ amount ≤ c.upper ∧ IsPick c.options.length amount is := by
  have hbounds : c.lower ≤ c.upper := Nat.min_le_right _ _
  refine (yields_countBetween hbounds c.upper_lt).bind fun amount ⟨hlow, hhigh⟩ => ?_
  refine (yields_pickDistinct c.options.length amount).imp fun is his => ?_
  have hupper : c.upper ≤ c.options.length := Nat.min_le_right _ _
  rw [Nat.min_eq_left (Nat.le_trans hhigh hupper)] at his
  exact ⟨amount, hlow, hhigh, his⟩

theorem lt_of_draw {c : Choice} {g g' : Generator} {is : List Nat}
    (h : g.draw c.choose = some (is, g')) : ∀ i ∈ is, i < c.options.length := by
  obtain ⟨_, -, -, his⟩ := c.yields_choose.draw h
  exact his.lt

/-- Whatever the words are, a random selection that is drawn consists of distinct options that there
are. How many there are is within the bounds of the choice as far as these are bounds at all: of two
that are crossed only the upper one counts, and neither asks for more options than there are. A
selection of all options is one of their orders. -/
theorem choose_within {c : Choice} {s : Supply} {p q : Position} {is : List Nat}
    (h : c.choose s p = some (is, q)) :
    is.Nodup ∧ (∀ i ∈ is, i < c.options.length) ∧
      min (min c.least.toNat c.most.toNat) c.options.length ≤ is.length ∧
      is.length ≤ min c.most.toNat c.options.length ∧
      (c.least ≤ c.most → c.least.toNat ≤ c.options.length →
        c.least.toNat ≤ is.length ∧ is.length ≤ c.most.toNat) ∧
      (is.length = c.options.length → is.Perm (List.range c.options.length)) := by
  obtain ⟨amount, hlow, hhigh, his⟩ := c.yields_choose s p is q h
  have hlength := his.length_eq
  have hle : is.length ≤ min c.most.toNat c.options.length := hlength ▸ hhigh
  have hge : min (min c.least.toNat c.most.toNat) c.options.length ≤ is.length := by
    rw [Nat.min_assoc, hlength]
    exact hlow
  refine ⟨his.nodup, his.lt, hge, hle, fun hbounds henough => ?_, fun hall => ?_⟩
  · have hbounds : c.least.toNat ≤ c.most.toNat := UInt32.le_iff_toNat_le.mp hbounds
    omega
  · have hsub : is.Subperm (List.range c.options.length) :=
      List.subperm_of_subset his.nodup fun i hi => List.mem_range.mpr (his.lt i hi)
    exact hsub.perm_of_length_le (Nat.le_of_eq (List.length_range.trans hall.symm))

/-- Bounds that are crossed, and words that are all zero: two of five options are picked, and the
second draw meets the first one again. -/
theorem choose_within_crossed :
    let c : Choice := ⟨"Elige", 3, 2, List.replicate 5 (.plain .heal "Cura"), .none⟩
    c.choose ⟨fun _ => 0, 1⟩ 0 = some ([4, 0], 2) ∧ [4, 0].Nodup ∧
      2 ≤ [4, 0].length ∧ [4, 0].length ≤ 2 := by
  intro c
  have hdraw : c.choose ⟨fun _ => 0, 1⟩ 0 = some ([4, 0], 2) := by decide +kernel
  obtain ⟨hnodup, -, hge, hle, -⟩ := choose_within hdraw
  exact ⟨hdraw, hnodup, hge, hle⟩

end Choice

end CityCards
