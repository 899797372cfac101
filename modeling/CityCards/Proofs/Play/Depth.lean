import CityCards.Proofs.Play.Related
import CityCards.Play.Scripted

/-!
# Limits of depth

A limit of depth is looked at when a node is visited, so it matters only where a resolution gets
to. Up to the first node that is too deep the resolution does what it does without the limit, and
there it ends. Two resolutions under different limits are compared part by part, just as strict and
lenient ones are.

Main definitions:
* `Effect.height`: how deep the deepest node of a tree is.
* `Resolve.Bounded`: parts that do not end for being too deep.
* `Resolve.Cuts`: a part under a limit does what a part under a wider limit does, or is cut short.

Results:
* `Effect.bounded_resolveAt`: under a limit that no node exceeds, no resolution is cut short.
* `Effect.cuts_resolveAt`: a narrower limit only cuts a resolution short.
* `Effect.resolveAt_unlimited`: without a limit it makes no difference how deep a tree stands.
* `Effect.resolve_limited`: what that means for the results, the states and the calls.
-/

namespace CityCards

/-! ## How deep a tree is -/

namespace Effect

/-- How many steps it is from the root of a tree to its deepest node. -/
def height (e : Effect) : Nat := (e.nodes.map fun x => x.1.length).max?.getD 0

theorem length_le_height {e n : Effect} {p : Place} (h : (p, n) ∈ e.nodes) :
    p.length ≤ e.height :=
  List.le_max?_getD_of_mem (List.mem_map.mpr ⟨(p, n), h, rfl⟩)

end Effect

/-! ## Rules with other limits -/

/-- The rules with another limit of depth. -/
def Rules.limited (r : Rules) (limit : UInt32) : Rules :=
  { r with config := { r.config with maxDepth := limit } }

/-- Zero is no limit, and any other limit is narrower than a greater one. -/
def Narrower (limit limit' : UInt32) : Prop := 0 < limit ∧ (limit' = 0 ∨ limit ≤ limit')

theorem ResolverConfig.allowsDepth_iff {c : ResolverConfig} {depth : Nat} :
    c.allowsDepth depth = true ↔ c.maxDepth = 0 ∨ depth ≤ c.maxDepth.toNat := by
  simp [allowsDepth]

theorem Narrower.allowsDepth {limit limit' : UInt32} (h : Narrower limit limit') (r : Rules)
    {depth : Nat} (hd : (r.limited limit).config.allowsDepth depth = true) :
    (r.limited limit').config.allowsDepth depth = true := by
  obtain ⟨hpos, hle⟩ := h
  rw [ResolverConfig.allowsDepth_iff] at hd ⊢
  have hwithin : depth ≤ limit.toNat := hd.resolve_left (UInt32.pos_iff_ne_zero.mp hpos)
  rcases hle with hzero | hle
  · exact Or.inl hzero
  · exact Or.inr (Nat.le_trans hwithin (UInt32.le_iff_toNat_le.mp hle))

namespace Resolve

variable {σ α β : Type}

/-! ## Parts that do not end for being too deep -/

/-- The part takes back no call, and it does not end for being too deep. -/
structure Bounded (m : Resolve σ α) : Prop where
  grows : ∀ run : Run σ, run.calls <+: (exec m run).2.calls
  not_depthExceeded : ∀ (run : Run σ) limit, (exec m run).1 ≠ .error (.depthExceeded limit)

theorem bounded_pure (a : α) : Bounded (σ := σ) (pure a) :=
  ⟨fun _ => List.prefix_rfl, by simp⟩

theorem bounded_bind {m : Resolve σ α} {f : α → Resolve σ β} (hm : Bounded m)
    (hf : ∀ a, Bounded (f a)) : Bounded (m >>= f) where
  grows := grows_bind hm.grows fun a => (hf a).grows
  not_depthExceeded run limit := by
    have hne := hm.not_depthExceeded run limit
    rw [exec_bind]
    generalize exec m run = outcome at hne ⊢
    obtain ⟨e | a, run'⟩ := outcome
    · simpa using hne
    · exact (hf a).not_depthExceeded run' limit

theorem sequential_bounded :
    Sequential (fun α (m : Resolve σ α) (_ : Resolve σ α) => Bounded m) :=
  ⟨bounded_pure, bounded_bind⟩

theorem bounded_checkDepth {r : Rules} {depth : Nat} (h : r.config.allowsDepth depth = true) :
    Bounded (σ := σ) (checkDepth r depth) := by
  constructor <;> intro run <;> simp [exec_checkDepth, h]

theorem bounded_test (r : Rules) (c : Condition) : Bounded (σ := σ) (test r c) := by
  constructor <;> intro run <;> rw [exec_test] <;>
    rcases (c.outcome r.custom run.game).anomaly with _ | a
  · exact List.prefix_rfl
  · dsimp only
    split <;> exact List.prefix_rfl
  · simp
  · dsimp only
    split <;> simp

theorem bounded_tally (r : Rules) (target : String) : Bounded (σ := σ) (tally r target) := by
  constructor <;> intro run <;> rw [exec_tally] <;> rcases Tally.parse? target with _ | t
  · dsimp only
    split <;> exact List.prefix_rfl
  · exact List.prefix_rfl
  · dsimp only
    split <;> simp
  · simp

theorem bounded_count (r : Rules) (entry : Report) : Bounded (σ := σ) (count r entry) := by
  constructor <;> intro run <;> rw [exec_count] <;> split <;> simp

theorem bounded_applyBasic (h : Handler σ) (b : Basic) : Bounded (applyBasic h b) := by
  constructor <;> intro run <;> rw [exec_applyBasic] <;>
    rcases h.applyBasic b run.game run.player with ⟨_ | _, game, player⟩ <;> simp

theorem bounded_choose (r : Rules) (h : Handler σ) (c : Choice) : Bounded (choose r h c) := by
  refine bounded_bind ?_ fun is => bounded_bind (bounded_count r .chosen) fun _ => ?_
  · constructor <;> intro run <;> rw [exec_makeChoice] <;>
      rcases h.makeChoice c run.player with ⟨_ | _, player⟩ <;> simp
  · cases hs : select (List.finRange c.options.length) is with
    | ok ps => exact bounded_pure ps
    | error e =>
      obtain ⟨i, -, -, rfl⟩ := exists_of_select_eq_error hs
      exact ⟨fun _ => List.prefix_rfl, by simp⟩

/-- A node that is not too deep is visited without an end for that reason. -/
theorem visit_bounded {r : Rules} (h : Handler σ) {depth : Nat}
    (hd : r.config.allowsDepth depth = true) (e : Effect) :
    VisitRelated (fun _ m (_ : Resolve σ _) => Bounded m) r r h h depth e := by
  refine ⟨bounded_checkDepth hd, fun entry _ => bounded_count r entry, ?_⟩
  cases e with
  | basic b => exact bounded_applyBasic h b
  | conditional c t f m => exact bounded_test r c
  | multi bs d m => exact fun b _ => bounded_test r b.1
  | choice d lo hi os m => exact bounded_choose r h ⟨d, lo, hi, os, m⟩
  | forEach t b d m => exact bounded_tally r t
  | composite es d m => trivial

/-! ## Parts that are cut short -/

/-- The outcome under a limit is the other one, unless it is that a node was too deep. By then no
call has been made that the other does not make. -/
def CutShort (limit : UInt32) (limited wide : Except ResolveError α × Run σ) : Prop :=
  limited = wide ∨
    limited.1 = .error (.depthExceeded limit) ∧ limited.2.calls <+: wide.2.calls

/-- The first part, which is under the limit, is the second one as far as it goes. -/
structure Cuts (limit : UInt32) (α : Type) (m n : Resolve σ α) : Prop where
  grows : ∀ run : Run σ, run.calls <+: (exec n run).2.calls
  cut : ∀ run : Run σ, CutShort limit (exec m run) (exec n run)

theorem Bounded.cuts {m : Resolve σ α} (h : Bounded m) (limit : UInt32) : Cuts limit α m m :=
  ⟨h.grows, fun _ => Or.inl rfl⟩

theorem cuts_bind {limit : UInt32} {m n : Resolve σ α} {f g : α → Resolve σ β}
    (hm : Cuts limit α m n) (hf : ∀ a, Cuts limit β (f a) (g a)) :
    Cuts limit β (m >>= f) (n >>= g) where
  grows := grows_bind hm.grows fun a => (hf a).grows
  cut run := by
    have hcut := hm.cut run
    rw [exec_bind, exec_bind]
    generalize exec m run = limited at hcut ⊢
    generalize exec n run = wide at hcut ⊢
    rcases hcut with rfl | ⟨herror, hcalls⟩
    · obtain ⟨_ | a, run'⟩ := limited
      · exact Or.inl rfl
      · exact (hf a).cut run'
    · -- The limited part has ended here; the other one goes on and only adds calls.
      obtain ⟨error, run'⟩ := limited
      obtain rfl : error = _ := herror
      refine Or.inr ⟨rfl, ?_⟩
      obtain ⟨_ | b, run''⟩ := wide
      · exact hcalls
      · exact hcalls.trans ((hf b).grows run'')

theorem sequential_cuts (limit : UInt32) : Sequential (Cuts (σ := σ) limit) :=
  ⟨fun a => (bounded_pure a).cuts limit, cuts_bind⟩

section

variable {limit limit' : UInt32} (r : Rules)

theorem cuts_checkDepth (hn : Narrower limit limit') (depth : Nat) :
    Cuts (σ := σ) limit Unit (checkDepth (r.limited limit) depth)
      (checkDepth (r.limited limit') depth) := by
  by_cases hd : (r.limited limit).config.allowsDepth depth = true
  · have hd' := hn.allowsDepth r hd
    have hsame : checkDepth (σ := σ) (r.limited limit) depth =
        checkDepth (r.limited limit') depth := by simp [checkDepth, hd, hd']
    rw [hsame]
    exact (bounded_checkDepth hd').cuts limit
  · constructor <;> intro run <;> simp only [exec_checkDepth]
    · split <;> exact List.prefix_rfl
    · refine Or.inr ?_
      rw [if_neg hd]
      refine ⟨rfl, ?_⟩
      split <;> exact List.prefix_rfl

/-- At a node, the limit is looked at once and in nothing else the rules differ. -/
theorem visit_cuts (hn : Narrower limit limit') (h : Handler σ) (depth : Nat) (e : Effect) :
    VisitRelated (Cuts limit) (r.limited limit) (r.limited limit') h h depth e := by
  refine ⟨cuts_checkDepth r hn depth,
    fun entry _ => (bounded_count (r.limited limit) entry).cuts limit, ?_⟩
  cases e with
  | basic b => exact (bounded_applyBasic h b).cuts limit
  | conditional c t f m => exact (bounded_test (r.limited limit) c).cuts limit
  | multi bs d m => exact fun b _ => (bounded_test (r.limited limit) b.1).cuts limit
  | choice d lo hi os m => exact (bounded_choose (r.limited limit) h ⟨d, lo, hi, os, m⟩).cuts limit
  | forEach t b d m => exact (bounded_tally (r.limited limit) t).cuts limit
  | composite es d m => trivial

end

end Resolve

open Resolve

/-! ## Without a limit -/

theorem Resolve.checkDepth_unlimited {σ : Type} (r : Rules) (depth : Nat) :
    checkDepth (r.limited 0) depth = (pure () : Resolve σ Unit) := by
  simp [checkDepth, Rules.limited, ResolverConfig.allowsDepth]

namespace Effect

variable {σ : Type}

mutual

/-- Without a limit it makes no difference how deep a tree stands. -/
theorem resolveAt_unlimited (r : Rules) (h : Handler σ) (depth depth' : Nat) (e : Effect) :
    resolveAt (r.limited 0) h depth e = resolveAt (r.limited 0) h depth' e := by
  cases e with
  | basic b => simp [resolveAt, checkDepth_unlimited]
  | conditional c t f m =>
    simp [resolveAt, checkDepth_unlimited, resolveAt_unlimited r h _ (depth' + 1) t,
      resolveOption_unlimited r h _ (depth' + 1) f]
  | multi bs d m =>
    simp [resolveAt, checkDepth_unlimited, resolveBranches_unlimited r h _ (depth' + 1) bs,
      resolveOption_unlimited r h _ (depth' + 1) d]
  | choice d lo hi os m =>
    simp [resolveAt, checkDepth_unlimited, resolveEach_unlimited r h _ (depth' + 1) os]
  | forEach t b d m =>
    simp [resolveAt, checkDepth_unlimited, resolveAt_unlimited r h _ (depth' + 1) b]
  | composite es d m =>
    simp [resolveAt, checkDepth_unlimited, resolveEach_unlimited r h _ (depth' + 1) es]
termination_by structural e

theorem resolveOption_unlimited (r : Rules) (h : Handler σ) (depth depth' : Nat)
    (o : Option Effect) :
    resolveOption (r.limited 0) h depth o = resolveOption (r.limited 0) h depth' o := by
  cases o with
  | none => rfl
  | some e => exact resolveAt_unlimited r h depth depth' e
termination_by structural o

theorem resolveEach_unlimited (r : Rules) (h : Handler σ) (depth depth' : Nat)
    (es : List Effect) :
    resolveEach (r.limited 0) h depth es = resolveEach (r.limited 0) h depth' es := by
  cases es with
  | nil => rfl
  | cons e rest =>
    simp [resolveEach, resolveAt_unlimited r h depth depth' e,
      resolveEach_unlimited r h depth depth' rest]
termination_by structural es

theorem resolveBranches_unlimited (r : Rules) (h : Handler σ) (depth depth' : Nat)
    (bs : List (Condition × Effect)) :
    resolveBranches (r.limited 0) h depth bs = resolveBranches (r.limited 0) h depth' bs := by
  cases bs with
  | nil => rfl
  | cons b rest =>
    obtain ⟨c, e⟩ := b
    simp [resolveBranches, resolveAt_unlimited r h depth depth' e,
      resolveBranches_unlimited r h depth depth' rest]
termination_by structural bs

end

end Effect

/-! ## Whole resolutions -/

namespace Effect

variable {σ : Type}

/-- Where no node is too deep, no resolution ends for that reason. -/
theorem bounded_resolveAt {r : Rules} (h : Handler σ) {e : Effect}
    (hd : ∀ x ∈ e.nodes, r.config.allowsDepth x.1.length = true) :
    Bounded (resolveAt r h 0 e) :=
  resolveAt_related sequential_bounded [] e fun x hx => visit_bounded h (hd x hx) x.2

theorem cuts_resolveAt {limit limit' : UInt32} (hn : Narrower limit limit') (r : Rules)
    (h : Handler σ) (e : Effect) :
    Cuts limit Unit (resolveAt (r.limited limit) h 0 e) (resolveAt (r.limited limit') h 0 e) :=
  resolveAt_related (sequential_cuts limit) [] e fun x _ => visit_cuts r hn h _ x.2

end Effect

/-- The resolution has come to a node that is too deep. -/
def Resolution.ExceedsDepth {σ : Type} (res : Resolution σ) : Prop :=
  ∃ limit, res.result = .error (.depthExceeded limit)

namespace Effect

variable {σ : Type} (e : Effect) (r : Rules) (h : Handler σ) (g : GameState) (s : σ)

theorem not_exceedsDepth {limit : UInt32} (hd : limit = 0 ∨ e.height ≤ limit.toNat) :
    ¬(e.resolve (r.limited limit) h g s).ExceedsDepth := by
  rintro ⟨found, hfound⟩
  rw [resolve_eq, Resolution.ofOutcome_result_eq_error_iff] at hfound
  refine (bounded_resolveAt (r := r.limited limit) h fun x hx => ?_).not_depthExceeded _ _ hfound
  rw [ResolverConfig.allowsDepth_iff]
  exact hd.imp_right fun hle => Nat.le_trans (length_le_height hx) hle

/-- Under a narrower limit a resolution is the same, or it is cut short. -/
theorem resolve_narrower {limit limit' : UInt32} (hn : Narrower limit limit') :
    e.resolve (r.limited limit) h g s = e.resolve (r.limited limit') h g s ∨
      (e.resolve (r.limited limit) h g s).result = .error (.depthExceeded limit) ∧
        (e.resolve (r.limited limit) h g s).calls <+:
          (e.resolve (r.limited limit') h g s).calls := by
  simp only [resolve_eq, Resolution.ofOutcome_result_eq_error_iff]
  exact ((cuts_resolveAt hn r h e).cut (.start g s)).imp_left fun heq => by rw [heq]

/-- Without a limit no node is too deep. Under a limit of depth a resolution is what it is without
one, or it has come to a node that is too deep. Then the tree is higher than the limit, and the
calls up to there are the first ones that are made without a limit. A resolution that is not cut
short is the same under every greater limit. -/
theorem resolve_limited {limit : UInt32} (hlimit : 0 < limit) :
    ¬(e.resolve (r.limited 0) h g s).ExceedsDepth ∧
    (e.resolve (r.limited limit) h g s = e.resolve (r.limited 0) h g s ∨
      (e.resolve (r.limited limit) h g s).result = .error (.depthExceeded limit) ∧
        limit.toNat < e.height ∧
        (e.resolve (r.limited limit) h g s).calls <+: (e.resolve (r.limited 0) h g s).calls) ∧
    (e.height ≤ limit.toNat → ¬(e.resolve (r.limited limit) h g s).ExceedsDepth) ∧
    (¬(e.resolve (r.limited limit) h g s).ExceedsDepth → ∀ limit', limit ≤ limit' →
      ¬(e.resolve (r.limited limit') h g s).ExceedsDepth ∧
        e.resolve (r.limited limit') h g s = e.resolve (r.limited limit) h g s) := by
  have hfree := e.not_exceedsDepth r h g s (Or.inl rfl)
  have hwithin : e.height ≤ limit.toNat → ¬(e.resolve (r.limited limit) h g s).ExceedsDepth :=
    fun hle => e.not_exceedsDepth r h g s (Or.inr hle)
  refine ⟨hfree, ?_, hwithin, fun hnot limit' hle => ?_⟩
  · refine (e.resolve_narrower r h g s ⟨hlimit, Or.inl rfl⟩).imp_right fun ⟨herror, hcalls⟩ => ?_
    refine ⟨herror, ?_, hcalls⟩
    by_contra hle
    exact hwithin (Nat.le_of_not_lt hle) ⟨limit, herror⟩
  · rcases e.resolve_narrower r h g s ⟨hlimit, Or.inr hle⟩ with heq | ⟨herror, _⟩
    · exact ⟨heq ▸ hnot, heq.symm⟩
    · exact absurd ⟨limit, herror⟩ hnot

/-- Two basic effects, of which the second is a step further down. -/
def steppedTree : Effect :=
  .sequence [.plain .heal "Cura", .sequence [.plain .treat "Trata"]]

/-- Under a limit of one step, the first of two effects is applied and the second is too deep. -/
theorem resolve_stepped_limited : (0 : UInt32) < 1 ∧
    (steppedTree.resolve (Rules.limited ⟨.default, none, .stops⟩ 1) Script.empty.handler .empty
      .all).result = .error (.depthExceeded 1) ∧
    steppedTree.height = 2 ∧
    (steppedTree.resolve (Rules.limited ⟨.default, none, .stops⟩ 1) Script.empty.handler .empty
      .all).calls.length = 1 ∧
    (steppedTree.resolve (Rules.limited ⟨.default, none, .stops⟩ 1) Script.empty.handler .empty
      .all).calls <+: (steppedTree.resolve (Rules.limited ⟨.default, none, .stops⟩ 0)
        Script.empty.handler .empty .all).calls := by
  have hcut : (steppedTree.resolve (Rules.limited ⟨.default, none, .stops⟩ 1) Script.empty.handler
      .empty .all).result = .error (.depthExceeded 1) := rfl
  have hlimit : (0 : UInt32) < 1 := by decide
  obtain ⟨hfree, heq | ⟨_, _, hcalls⟩, _, _⟩ := steppedTree.resolve_limited ⟨.default, none, .stops⟩
    Script.empty.handler .empty .all hlimit
  · exact absurd ⟨1, heq ▸ hcut⟩ hfree
  · exact ⟨hlimit, hcut, rfl, rfl, hcalls⟩

end Effect

end CityCards
