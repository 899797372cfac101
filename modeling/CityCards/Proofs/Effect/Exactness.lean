import CityCards.Proofs.Effect.Violations
import Mathlib.Data.List.Forall2
import Mathlib.Data.List.Nodup

/-!
# Every broken rule is found once

The rules for nodes, one by one, said without the check. What the check finds at a node are the
rules that the node breaks, each of them once. So what it finds in a tree is, node by node in the
order of the walk, what the node breaks, and nothing else.

Main definitions:
* `Condition.IsUnfit`: the operands of a condition do not have the shape that its type asks for.
* `Effect.Breaks`: a node breaks a rule.

Results:
* `Effect.mem_flaws_iff`: what is found at a node is what it breaks.
* `Effect.flaws_nodup`: nothing is found twice.
* `Effect.violations_exact`: what that means for whole trees.
-/

namespace CityCards

/-! ## The rules -/

/-- The operands of the condition do not have the shape that its type asks for. -/
inductive Condition.IsUnfit (c : Condition) : Prop where
  | noText (htype : c.type ∈ [.hasHope, .hasDiscontent, .hasBuilding, .hasLaw])
    (hvalue : ∀ s, c.value ≠ some (.text s))
  | noNumber (htype : c.type ∈ [.hungerLevel, .stressLevel, .resourceAmount, .citizensType])
    (hvalue : ∀ n, c.value ≠ some (.number n))
  | noKey (htype : c.type ∈ [.resourceAmount, .citizensType]) (hkey : c.compareWith = none)

/-- The node breaks a rule: which one, and in which of its parts. -/
inductive Effect.Breaks : Effect → Spot → Flaw → Prop where
  | noDescription {b : Basic} (hblank : ∀ c ∈ b.description.toList, Text.isBlank c = true) :
    Breaks (.basic b) .node .noDescription
  | noCardId {b : Basic} (hkind : b.kind = .addCardToDeck ∨ b.kind = .shuffleCardIntoDeck)
    (hcard : b.cardId = none) : Breaks (.basic b) .node (.noCardId b.kind)
  | condition {c : Condition} {t : Effect} {f : Option Effect} {m : Marks} (hunfit : c.IsUnfit) :
    Breaks (.conditional c t f m) .condition (.unfitOperands c.type)
  | noBranches {d : Option Effect} {m : Marks} : Breaks (.multi [] d m) .node .noBranches
  | branchCondition {bs : List (Condition × Effect)} {d : Option Effect} {m : Marks} {i : Nat}
    {b : Condition × Effect} (hb : bs[i]? = some b) (hunfit : b.1.IsUnfit) :
    Breaks (.multi bs d m) (.branchCondition i) (.unfitOperands b.1.type)
  | noOptions {d : String} {lo hi : UInt32} {m : Marks} :
    Breaks (.choice d lo hi [] m) .node .noOptions
  | crossedBounds {d : String} {lo hi : UInt32} {os : List Effect} {m : Marks} (hbounds : hi < lo) :
    Breaks (.choice d lo hi os m) .node (.crossedBounds lo hi)
  | noTarget {t : String} {b : Effect} {d : String} {m : Marks}
    (hblank : ∀ c ∈ t.toList, Text.isBlank c = true) : Breaks (.forEach t b d m) .node .noTarget
  | unknownTarget {t : String} {b : Effect} {d : String} {m : Marks}
    (hblank : ∃ c ∈ t.toList, Text.isBlank c = false) (hknown : t ∉ Tally.known.map Prod.fst) :
    Breaks (.forEach t b d m) .node (.unknownTarget t)
  | noMembers {d : Option String} {m : Marks} : Breaks (.composite [] d m) .node .noMembers

/-! ## What is found at a node -/

theorem Condition.isUnfit_iff (c : Condition) : c.IsUnfit ↔ c.hasFitOperands = false := by
  have htext : (∀ s, c.value ≠ some (.text s)) ↔ c.text?.isSome = false := by
    unfold text?
    rcases c.value with _ | (_ | _) <;> simp
  have hnumber : (∀ n, c.value ≠ some (.number n)) ↔ c.number?.isSome = false := by
    unfold number?
    rcases c.value with _ | (_ | _) <;> simp
  have hkey : c.compareWith = none ↔ c.compareWith.isSome = false := by simp
  constructor
  · rintro (⟨htype, hvalue⟩ | ⟨htype, hvalue⟩ | ⟨htype, hnone⟩)
    · rw [htext] at hvalue
      unfold hasFitOperands
      cases hc : c.type <;> simp_all
    · rw [hnumber] at hvalue
      unfold hasFitOperands
      cases hc : c.type <;> simp_all
    · rw [hkey] at hnone
      unfold hasFitOperands
      cases hc : c.type <;> simp_all
  · intro hfit
    unfold hasFitOperands at hfit
    cases hc : c.type with
    | hasHope | hasDiscontent | hasBuilding | hasLaw =>
      rw [hc] at hfit
      exact .noText (by simp [hc]) (htext.mpr hfit)
    | hungerLevel | stressLevel =>
      rw [hc] at hfit
      exact .noNumber (by simp [hc]) (hnumber.mpr hfit)
    | resourceAmount | citizensType =>
      rw [hc] at hfit
      rcases Bool.and_eq_false_iff.mp hfit with hvalue | hnone
      · exact .noNumber (by simp [hc]) (hnumber.mpr hvalue)
      · exact .noKey (by simp [hc]) (hkey.mpr hnone)
    | compareHopeDiscontent | custom =>
      rw [hc] at hfit
      cases hfit

theorem Tally.parse?_eq_none_iff (t : String) : parse? t = none ↔ t ∉ known.map Prod.fst := by
  rw [parse?, List.lookup_eq_none_iff, List.mem_map]
  constructor
  · rintro h ⟨x, hx, rfl⟩
    simpa using h x hx
  · intro h x hx
    rw [bne_iff_ne]
    rintro rfl
    exact h ⟨x, hx, rfl⟩

theorem EffectKind.needsCardId_iff (k : EffectKind) :
    k.needsCardId = true ↔ k = .addCardToDeck ∨ k = .shuffleCardIntoDeck := by
  cases k <;> simp [needsCardId]

namespace Effect

theorem mem_flawIf_iff {x : Spot × Flaw} {b : Bool} {s : Spot} {f : Flaw} :
    x ∈ flawIf b s f ↔ b = true ∧ x = (s, f) := by
  cases b <;> simp [flawIf]

/-- What the check finds at a node is what the node breaks. -/
theorem mem_flaws_iff {e : Effect} {s : Spot} {f : Flaw} : (s, f) ∈ e.flaws ↔ e.Breaks s f := by
  have hblank (t : String) : Text.isBlankText t = true ↔ ∀ c ∈ t.toList, Text.isBlank c = true :=
    List.all_eq_true
  cases e with
  | basic b =>
    simp only [flaws, shapeFlaws, referenceFlaws, List.mem_append, mem_flawIf_iff, hblank,
      Bool.and_eq_true, EffectKind.needsCardId_iff, Option.isNone_iff_eq_none, Prod.mk.injEq]
    constructor
    · rintro (⟨h, rfl, rfl⟩ | ⟨⟨hkind, hcard⟩, rfl, rfl⟩)
      · exact .noDescription h
      · exact .noCardId hkind hcard
    · rintro (h | ⟨hkind, hcard⟩)
      · exact .inl ⟨h, rfl, rfl⟩
      · exact .inr ⟨⟨hkind, hcard⟩, rfl, rfl⟩
  | conditional c t o m =>
    simp only [flaws, shapeFlaws, referenceFlaws, List.nil_append, mem_flawIf_iff,
      Bool.not_eq_true', ← c.isUnfit_iff, Prod.mk.injEq]
    constructor
    · rintro ⟨hunfit, rfl, rfl⟩
      exact .condition hunfit
    · rintro (_ | _ | hunfit)
      exact ⟨hunfit, rfl, rfl⟩
  | multi bs d m =>
    simp only [flaws, shapeFlaws, referenceFlaws, List.mem_append, mem_flawIf_iff,
      List.isEmpty_iff, List.mem_flatten, List.mem_mapIdx, Prod.mk.injEq]
    constructor
    · rintro (⟨rfl, rfl, rfl⟩ | ⟨_, ⟨i, hi, rfl⟩, hmem⟩)
      · exact .noBranches
      · simp only [mem_flawIf_iff, Bool.not_eq_true', ← Condition.isUnfit_iff,
          Prod.mk.injEq] at hmem
        obtain ⟨hunfit, rfl, rfl⟩ := hmem
        exact .branchCondition (List.getElem?_eq_getElem hi) hunfit
    · intro h
      cases h with
      | noBranches => exact .inl ⟨rfl, rfl, rfl⟩
      | branchCondition hb hunfit =>
        obtain ⟨hi, rfl⟩ := List.getElem?_eq_some_iff.mp hb
        refine .inr ⟨_, ⟨_, hi, rfl⟩, ?_⟩
        simpa [mem_flawIf_iff, ← Condition.isUnfit_iff] using hunfit
  | choice d lo hi os m =>
    simp only [flaws, shapeFlaws, referenceFlaws, List.append_nil, List.mem_append,
      mem_flawIf_iff, List.isEmpty_iff, decide_eq_true_eq, Prod.mk.injEq]
    constructor
    · rintro (⟨rfl, rfl, rfl⟩ | ⟨hbounds, rfl, rfl⟩)
      · exact .noOptions
      · exact .crossedBounds hbounds
    · intro h
      cases h with
      | noOptions => exact .inl ⟨rfl, rfl, rfl⟩
      | crossedBounds hbounds => exact .inr ⟨hbounds, rfl, rfl⟩
  | forEach t b d m =>
    have hsome : Text.isBlankText t = false ↔ ∃ c ∈ t.toList, Text.isBlank c = false := by
      rw [← Bool.not_eq_true, hblank]
      simp
    simp only [flaws, shapeFlaws, referenceFlaws, List.mem_append, mem_flawIf_iff, hblank,
      Bool.and_eq_true, Bool.not_eq_true', hsome, Option.isNone_iff_eq_none,
      Tally.parse?_eq_none_iff, Prod.mk.injEq]
    constructor
    · rintro (⟨h, rfl, rfl⟩ | ⟨⟨h, hknown⟩, rfl, rfl⟩)
      · exact .noTarget h
      · exact .unknownTarget h hknown
    · intro h
      cases h with
      | noTarget h => exact .inl ⟨h, rfl, rfl⟩
      | unknownTarget h hknown => exact .inr ⟨⟨h, hknown⟩, rfl, rfl⟩
  | composite es d m =>
    simp only [flaws, shapeFlaws, referenceFlaws, List.append_nil, mem_flawIf_iff,
      List.isEmpty_iff, Prod.mk.injEq]
    constructor
    · rintro ⟨rfl, rfl, rfl⟩
      exact .noMembers
    · intro h
      cases h
      exact ⟨rfl, rfl, rfl⟩

theorem flawIf_nodup (b : Bool) (s : Spot) (f : Flaw) : (flawIf b s f).Nodup := by
  cases b <;> simp [flawIf]

theorem flawIf_append_nodup (a b : Bool) (s : Spot) {f f' : Flaw} (h : f ≠ f') :
    (flawIf a s f ++ flawIf b s f').Nodup := by
  cases a <;> cases b <;> simp [flawIf, h]

/-- Conditions of different branches are different parts of the node. -/
theorem branchFlaws_nodup (bs : List (Condition × Effect)) (d : Option Effect) (m : Marks) :
    (multi bs d m).referenceFlaws.Nodup := by
  rw [referenceFlaws, List.nodup_flatten]
  constructor
  · intro l hl
    obtain ⟨i, hi, rfl⟩ := List.mem_mapIdx.mp hl
    exact flawIf_nodup _ _ _
  · rw [List.pairwise_iff_getElem]
    intro i j hi hj hij x hx hx'
    rw [List.getElem_mapIdx, mem_flawIf_iff] at hx hx'
    have hsame : Spot.branchCondition i = .branchCondition j :=
      (congrArg Prod.fst hx.2).symm.trans (congrArg Prod.fst hx'.2)
    cases hsame
    exact Nat.lt_irrefl i hij

theorem flaws_nodup (e : Effect) : e.flaws.Nodup := by
  cases e with
  | basic b => exact flawIf_append_nodup _ _ _ Flaw.noConfusion
  | conditional c t f m => exact flawIf_nodup _ _ _
  | multi bs d m =>
    cases bs with
    | nil => exact flawIf_nodup true .node .noBranches
    | cons b rest => exact branchFlaws_nodup (b :: rest) d m
  | choice d lo hi os m =>
    rw [flaws, referenceFlaws, List.append_nil]
    exact flawIf_append_nodup _ _ _ Flaw.noConfusion
  | forEach t b d m => exact flawIf_append_nodup _ _ _ Flaw.noConfusion
  | composite es d m =>
    rw [flaws, referenceFlaws, List.append_nil]
    exact flawIf_nodup _ _ _

/-! ## Whole trees -/

/-- What is found at the nodes of a tree. -/
theorem found_violationsAt (x : Place × Effect) :
    (violationsAt x).Nodup ∧
      ∀ v, v ∈ violationsAt x ↔ v.place = x.1 ∧ x.2.Breaks v.spot v.flaw := by
  constructor
  · refine x.2.flaws_nodup.map ?_
    rintro ⟨s, f⟩ ⟨s', f'⟩ h
    cases h
    rfl
  · rintro ⟨p, s, f⟩
    simp only [violationsAt, List.mem_map, Prod.exists, Violation.mk.injEq, ← mem_flaws_iff]
    constructor
    · rintro ⟨s', f', hmem, rfl, rfl, rfl⟩
      exact ⟨rfl, hmem⟩
    · rintro ⟨rfl, hmem⟩
      exact ⟨s, f, hmem, rfl, rfl, rfl⟩

theorem flaws_eq_nil_iff (e : Effect) : e.flaws = [] ↔ ∀ s f, ¬e.Breaks s f := by
  simp only [List.eq_nil_iff_forall_not_mem, Prod.forall, mem_flaws_iff]

/-- The check of a tree goes through its nodes in the order of the walk, and finds at each of them,
once, every rule that the node breaks, and nothing else. So a tree is sound exactly if no node that
the walk visits breaks a rule, and then the check of each of these nodes alone finds nothing. -/
theorem violations_exact (e : Effect) :
    (∃ found : List (List Violation), e.violations = found.flatten ∧
      List.Forall₂ (fun x vs => vs.Nodup ∧
        ∀ v, v ∈ vs ↔ v.place = x.1 ∧ x.2.Breaks v.spot v.flaw) e.nodes found) ∧
    e.nodes.map Prod.snd = e.walk ∧
    (e.isSound = true ↔ ∀ n ∈ e.walk, ∀ s f, ¬n.Breaks s f) ∧
    (e.isSound = true → ∀ n ∈ e.walk, n.shallowViolations = []) := by
  have hsound : e.isSound = true ↔ ∀ n ∈ e.walk, n.flaws = [] := by
    rw [isSound_iff_nodes, ← nodes_map_snd, List.forall_mem_map]
  refine ⟨⟨e.nodes.map violationsAt, e.violations_eq, ?_⟩, e.nodes_map_snd, ?_, ?_⟩
  · rw [List.forall₂_map_right_iff, List.forall₂_same]
    exact fun x _ => found_violationsAt x
  · rw [hsound]
    exact forall₂_congr fun n _ => n.flaws_eq_nil_iff
  · intro h n hn
    rw [shallowViolations, (List.append_eq_nil_iff.mp (hsound.mp h n hn)).1]
    rfl

end Effect

end CityCards
