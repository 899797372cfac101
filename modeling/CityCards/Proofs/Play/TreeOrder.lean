import CityCards.Play.Scripted
import CityCards.Proofs.Play.Visits
import Mathlib.Data.List.Flatten
import Mathlib.Data.List.Sort

/-!
# The order of resolution

A resolution that takes options in increasing order and no body more than once in a row applies
basic effects in the order in which they stand in the tree. It may leave some out. It leaves out
none if every condition that it asks holds, it takes all options, no body is left out, and there is
nothing in the tree for other cases.

What is shown of a part is how the leaves it visits compare with those of what it resolves. The
conditions are on all visits and calls of the resolution up to its end. What a part sees and calls
is among that, so a condition that holds in the end can be used at every part.

Main definitions:
* `Orderly`, `Thorough`: what the visits and calls of a resolution are like.
* `Effect.IsStraight`: a tree with nothing for other cases.
* `Resolve.InTreeOrder`: a part visits leaves in the order of a list, and applies them.

Results:
* `Resolve.inTreeOrder_bind`: if parts come one after the other, then so do their leaves.
* `Effect.inTreeOrder_watchAt`: resolving a tree visits leaves in the order of its leaves.
* `Effect.resolve_inTreeOrder`: what that means for the calls of a resolution.
-/

namespace CityCards

/-- The basic effect that was to be applied, whatever came of it. -/
def Call.passed? : Call → Option Basic
  | .applied b _ _ => some b
  | .asked .. => none

/-- Every selection is in increasing order, and nothing is counted above one. -/
structure Orderly (vs : List Visit) (cs : List Call) : Prop where
  increasing : ∀ x ∈ cs.filterMap Call.selection?, x.2.Pairwise (· < ·)
  single : ∀ v ∈ vs, ∀ n ∈ v.count?, n ≤ 1

/-- Every condition that is asked holds, every option is selected, and everything is counted as
one. -/
structure Thorough (custom : Option CustomEvaluator) (vs : List Visit) (cs : List Call) : Prop where
  holding : ∀ v ∈ vs, ∀ c ∈ v.asked custom, v.Holds custom c
  selecting : ∀ x ∈ cs.filterMap Call.selection?, ∀ i < x.1.options.length, i ∈ x.2
  counting : ∀ v ∈ vs, ∀ n ∈ v.count?, n = 1

instance (vs : List Visit) (cs : List Call) : Decidable (Orderly vs cs) :=
  decidable_of_iff (_ ∧ _) ⟨fun h => ⟨h.1, h.2⟩, fun h => ⟨h.1, h.2⟩⟩

instance (custom : Option CustomEvaluator) (vs : List Visit) (cs : List Call) :
    Decidable (Thorough custom vs cs) :=
  decidable_of_iff (_ ∧ _ ∧ _) ⟨fun h => ⟨h.1, h.2.1, h.2.2⟩, fun h => ⟨h.1, h.2, h.3⟩⟩

/-! ## Straight trees -/

namespace Effect

/-- The node has nothing for the case that a condition does not hold. -/
def HasOneWay : Effect → Prop
  | .conditional _ _ f _ => f = none
  | .multi bs d _ => bs.length ≤ 1 ∧ d = none
  | _ => True

instance : DecidablePred HasOneWay
  | .conditional _ _ f _ => inferInstanceAs (Decidable (f = none))
  | .multi bs d _ => inferInstanceAs (Decidable (bs.length ≤ 1 ∧ d = none))
  | .basic _ => .isTrue trivial
  | .choice .. => .isTrue trivial
  | .forEach .. => .isTrue trivial
  | .composite .. => .isTrue trivial

/-- No node of the tree has anything for the case that a condition does not hold. -/
def IsStraight (e : Effect) : Prop := ∀ n ∈ e.walk, n.HasOneWay

instance (e : Effect) : Decidable e.IsStraight := inferInstanceAs (Decidable (∀ _ ∈ _, _))

theorem IsStraight.hasOneWay {root n : Effect} (h : root.IsStraight) {p : Place}
    (hat : root.at? p = some n) : n.HasOneWay := h n (snd_mem_walk (mem_nodes_iff.mpr hat))

end Effect

/-! ## Parts of lists -/

section

variable {n : Nat} {ps : List (Fin n)}

/-- Positions in increasing order are in the order of all positions. -/
theorem sublist_finRange (h : ps.Pairwise (· < ·)) : ps.Sublist (List.finRange n) := by
  have hnodup : ps.Nodup := h.imp fun hlt => Fin.ne_of_lt hlt
  have hsub : List.Subperm ps (List.finRange n) :=
    List.subperm_of_subset hnodup fun k _ => List.mem_finRange k
  exact List.sublist_of_subperm_of_pairwise hsub h (List.sortedLT_finRange n).pairwise

theorem eq_finRange (h : ps.Pairwise (· < ·)) (hall : ∀ k, k ∈ ps) : ps = List.finRange n := by
  refine h.eq_of_mem_iff (List.sortedLT_finRange n).pairwise fun k => ?_
  exact iff_of_true (hall k) (List.mem_finRange k)

end

theorem flatten_replicate_sublist {α : Type} {n : Nat} (hn : n ≤ 1) (l : List α) :
    (List.replicate n l).flatten.Sublist l := by
  obtain rfl | rfl : n = 0 ∨ n = 1 := by omega
  · exact List.nil_sublist l
  · simp

/-! ## Runs that go on -/

namespace Run

variable {σ : Type} {root : Effect} {custom : Option CustomEvaluator}
  {run run' run'' : Run (List Visit × σ)}

/-- The second run is the first with more visits and calls. -/
structure Precedes (run run' : Run (List Visit × σ)) : Prop where
  visits : run.player.1 <+: run'.player.1
  calls : run.calls <+: run'.calls

theorem Precedes.refl (run : Run (List Visit × σ)) : run.Precedes run :=
  ⟨List.prefix_rfl, List.prefix_rfl⟩

theorem Precedes.trans (h : run.Precedes run') (h' : run'.Precedes run'') : run.Precedes run'' :=
  ⟨h.visits.trans h'.visits, h.calls.trans h'.calls⟩

/-- The leaves that have been visited. -/
def leaves (run : Run (List Visit × σ)) : List (Place × Basic) :=
  run.player.1.filterMap Visit.leaf?

/-- The basic effects that were to be applied. -/
def passed (run : Run (List Visit × σ)) : List Basic := run.calls.filterMap Call.passed?

/-- The visits and calls up to now are orderly. -/
def IsOrderly (run : Run (List Visit × σ)) : Prop := Orderly run.player.1 run.calls

/-- The tree is straight, and the visits and calls up to now are orderly and thorough. -/
structure IsWhole (root : Effect) (custom : Option CustomEvaluator) (run : Run (List Visit × σ)) :
    Prop where
  straight : root.IsStraight
  orderly : run.IsOrderly
  thorough : Thorough custom run.player.1 run.calls

theorem Precedes.mem_visits (h : run.Precedes run') {v : Visit} (hv : v ∈ run.player.1) :
    v ∈ run'.player.1 := h.visits.subset hv

theorem Precedes.mem_selections (h : run.Precedes run') {x : Choice × List Nat}
    (hx : x ∈ run.calls.filterMap Call.selection?) : x ∈ run'.calls.filterMap Call.selection? :=
  (h.calls.sublist.filterMap Call.selection?).subset hx

theorem IsOrderly.of_precedes (h : run'.IsOrderly) (hext : run.Precedes run') : run.IsOrderly where
  increasing x hx := h.increasing x (hext.mem_selections hx)
  single v hv := h.single v (hext.mem_visits hv)

theorem IsWhole.of_precedes (h : run'.IsWhole root custom) (hext : run.Precedes run') :
    run.IsWhole root custom where
  straight := h.straight
  orderly := h.orderly.of_precedes hext
  thorough := {
    holding v hv := h.thorough.holding v (hext.mem_visits hv)
    selecting x hx := h.thorough.selecting x (hext.mem_selections hx)
    counting v hv := h.thorough.counting v (hext.mem_visits hv) }

section

variable {c : Choice} {ps : List (Fin c.options.length)}

theorem IsOrderly.pairwise (h : run.IsOrderly)
    (hps : (c, ps.map Fin.val) ∈ run.calls.filterMap Call.selection?) : ps.Pairwise (· < ·) := by
  have hincreasing := h.increasing _ hps
  rwa [List.pairwise_map] at hincreasing

theorem IsWhole.eq_finRange (h : run.IsWhole root custom)
    (hps : (c, ps.map Fin.val) ∈ run.calls.filterMap Call.selection?) :
    ps = List.finRange c.options.length := by
  refine CityCards.eq_finRange (h.orderly.pairwise hps) fun k => ?_
  obtain ⟨j, hj, heq⟩ := List.mem_map.mp (h.thorough.selecting _ hps k.val k.isLt)
  rwa [← Fin.ext heq]

end

end Run

namespace Resolve

variable {σ α β : Type}

/-- From this run on the leaves `l` are visited and applied. They are in the order of the list `L`
if all visits and calls are orderly, and if besides nothing is left out and the part does not fail,
then they are the whole list. -/
structure Traverses (root : Effect) (custom : Option CustomEvaluator) (L l : List (Place × Basic))
    (run : Run (List Visit × σ)) (outcome : Except ResolveError α × Run (List Visit × σ)) :
    Prop where
  goesOn : run.Precedes outcome.2
  leaves : outcome.2.leaves = run.leaves ++ l
  passed : outcome.2.passed = run.passed ++ l.map Prod.snd
  sublist : outcome.2.IsOrderly → l.Sublist L
  all : outcome.2.IsWhole root custom → ∀ a, outcome.1 = .ok a → l = L

/-- From this run on, leaves are visited and applied in the order of the list. -/
def InTreeOrder (root : Effect) (custom : Option CustomEvaluator) (L : List (Place × Basic))
    (run : Run (List Visit × σ)) (outcome : Except ResolveError α × Run (List Visit × σ)) : Prop :=
  ∃ l, Traverses root custom L l run outcome

variable {root : Effect} {custom : Option CustomEvaluator} {L L' : List (Place × Basic)}
  {run : Run (List Visit × σ)}

/-! ## Parts in sequence -/

theorem inTreeOrder_bind {m : Resolve (List Visit × σ) α} {f : α → Resolve (List Visit × σ) β}
    (hm : InTreeOrder root custom L run (exec m run))
    (hf : ∀ a run', exec m run = (.ok a, run') →
      InTreeOrder root custom L' run' (exec (f a) run')) :
    InTreeOrder root custom (L ++ L') run (exec (m >>= f) run) := by
  obtain ⟨l, hl⟩ := hm
  rw [exec_bind]
  generalize exec m run = outcome at hl hf
  obtain ⟨err | a, run'⟩ := outcome
  · refine ⟨l, hl.goesOn, hl.leaves, hl.passed, fun ho => ?_, fun _ _ h => nomatch h⟩
    exact (hl.sublist ho).trans (List.sublist_append_left L L')
  · obtain ⟨l', hl'⟩ := hf a run' rfl
    refine ⟨l ++ l', hl.goesOn.trans hl'.goesOn, ?_, ?_, fun ho => ?_, fun hw b hb => ?_⟩
    · rw [hl'.leaves, hl.leaves, List.append_assoc]
    · rw [hl'.passed, hl.passed, List.map_append, List.append_assoc]
    · exact (hl.sublist (ho.of_precedes hl'.goesOn)).append (hl'.sublist ho)
    · rw [hl.all (hw.of_precedes hl'.goesOn) a rfl, hl'.all hw b hb]

/-- What is in the order of one list is in the order of another, if the first is in the order of the
second and, where nothing is left out, is the second. -/
theorem InTreeOrder.widen {outcome : Except ResolveError α × Run (List Visit × σ)}
    (h : InTreeOrder root custom L run outcome)
    (hsub : ∀ later, run.Precedes later → later.IsOrderly → L.Sublist L')
    (hall : ∀ later, run.Precedes later → later.IsWhole root custom → L = L') :
    InTreeOrder root custom L' run outcome := by
  obtain ⟨l, hl⟩ := h
  refine ⟨l, hl.goesOn, hl.leaves, hl.passed, fun ho => ?_, fun hw a ha => ?_⟩
  · exact (hl.sublist ho).trans (hsub _ hl.goesOn ho)
  · exact (hl.all hw a ha).trans (hall _ hl.goesOn hw)

/-- Where no node is visited and no basic effect applied, no leaves are. -/
theorem inTreeOrder_nil {outcome : Except ResolveError α × Run (List Visit × σ)} {cs : List Call}
    (hvisits : outcome.2.player.1 = run.player.1) (hcalls : outcome.2.calls = run.calls ++ cs)
    (hcs : cs.filterMap Call.passed? = []) : InTreeOrder root custom [] run outcome := by
  refine ⟨[], ⟨?_, ?_⟩, ?_, ?_, fun _ => .slnil, fun _ _ _ => rfl⟩
  · exact hvisits ▸ List.prefix_rfl
  · exact hcalls ▸ List.prefix_append _ _
  · rw [Run.leaves, Run.leaves, hvisits, List.append_nil]
  · rw [Run.passed, Run.passed, hcalls, List.filterMap_append, hcs, List.map_nil]

theorem inTreeOrder_pure (a : α) : InTreeOrder root custom [] run (exec (pure a) run) :=
  inTreeOrder_nil rfl (List.append_nil _).symm rfl

theorem Silent.inTreeOrder {m : (σ : Type) → Resolve σ α} (hm : Silent m) :
    InTreeOrder root custom [] run (exec (m (List Visit × σ)) run) := by
  have hsame := hm.same run
  refine inTreeOrder_nil ?_ (hsame.calls.trans (List.append_nil _).symm) rfl
  rw [hsame.player]

/-- After a part that makes no calls there is the order of the next part. -/
theorem Silent.inTreeOrder_bind {m : (σ : Type) → Resolve σ α} (hm : Silent m)
    {f : α → Resolve (List Visit × σ) β}
    (hf : ∀ a run', exec (m _) run = (.ok a, run') → run.Precedes run' →
      InTreeOrder root custom L run' (exec (f a) run')) :
    InTreeOrder root custom L run (exec (m _ >>= f) run) := by
  refine Resolve.inTreeOrder_bind hm.inTreeOrder fun a run' ha => ?_
  have hsame := hm.same run
  rw [ha] at hsame
  exact hf a run' ha ⟨hsame.player ▸ List.prefix_rfl, hsame.calls ▸ List.prefix_rfl⟩

theorem inTreeOrder_inOrder {ι : Type} {f : ι → Resolve (List Visit × σ) Unit}
    {L : ι → List (Place × Basic)} (is : List ι)
    (h : ∀ i run, InTreeOrder root custom (L i) run (exec (f i) run))
    (run : Run (List Visit × σ)) :
    InTreeOrder root custom (is.flatMap L) run (exec (inOrder (is.map f)) run) := by
  induction is generalizing run with
  | nil => exact inTreeOrder_pure ()
  | cons i rest ih => exact inTreeOrder_bind (h i run) fun _ run' _ => ih run'

theorem inTreeOrder_repeated {m : Resolve (List Visit × σ) Unit}
    (h : ∀ run, InTreeOrder root custom L run (exec m run)) (n : Nat)
    (run : Run (List Visit × σ)) :
    InTreeOrder root custom (List.replicate n L).flatten run (exec (repeated m n) run) := by
  induction n generalizing run with
  | zero => exact inTreeOrder_pure ()
  | succ n ih => exact inTreeOrder_bind (h run) fun _ run' _ => ih run'

/-! ## Choices and counts -/

theorem inTreeOrder_choose (r : Rules) (h : Handler σ) (c : Choice) :
    InTreeOrder root custom [] run (exec (choose r (h.beside (List Visit)) c) run) := by
  have hask : InTreeOrder root custom [] run
      (exec (makeChoice (h.beside (List Visit)) c) run) := by
    rw [exec_makeChoice, Handler.beside_makeChoice]
    rcases h.makeChoice c run.player.2 with ⟨_ | _, player⟩ <;> exact inTreeOrder_nil rfl rfl rfl
  refine inTreeOrder_bind hask fun is _ _ =>
    (silent_count r .chosen).inTreeOrder_bind fun _ _ _ _ => ?_
  cases select (List.finRange c.options.length) is with
  | ok ps => exact inTreeOrder_pure ps
  | error e => exact (silent_throw e).inTreeOrder

/-- The positions that are chosen are those of a recorded selection. -/
theorem selection_of_exec_choose {r : Rules} {h : Handler σ} {c : Choice} {run run' : Run σ}
    {ps : List (Fin c.options.length)} (hps : exec (choose r h c) run = (.ok ps, run')) :
    (c, ps.map Fin.val) ∈ run'.calls.filterMap Call.selection? := by
  obtain ⟨is, run₁, hmade, hps⟩ := exists_of_exec_bind_eq_ok hps
  obtain ⟨_, run₂, hcounted, hps⟩ := exists_of_exec_bind_eq_ok hps
  have hcalls : run₂.calls = run₁.calls := by
    have hsame := ((silent_count r .chosen).same run₁).calls
    rwa [hcounted] at hsame
  cases his : select (List.finRange c.options.length) is with
  | error e =>
    rw [his] at hps
    cases hps
  | ok qs =>
    rw [his] at hps
    cases hps
    rw [← eq_of_select_finRange his, hcalls]
    rw [exec_makeChoice] at hmade
    generalize h.makeChoice c run.player = answer at hmade
    obtain ⟨m | is, player⟩ := answer
    · cases hmade
    · cases hmade
      simp [Call.selection?]

theorem count_of_exec_tally {r : Rules} {target : String} {n : UInt32} {run run' : Run σ}
    (h : exec (tally r target) run = (.ok n, run')) :
    n.toNat = Tally.countOf target run.game := by
  rw [exec_tally] at h
  rw [Tally.countOf]
  cases ht : Tally.parse? target with
  | some t =>
    rw [ht] at h
    cases h
    rfl
  | none =>
    rw [ht] at h
    cases hs : r.config.strict <;> rw [hs] at h <;> cases h
    rfl

/-! ## Nodes -/

section

variable {r : Rules} {p : Place}

/-- A leaf is visited and applied, unless it stands too deep. -/
theorem inTreeOrder_leaf (h : Handler σ) {b : Basic} (hat : root.at? p = some (.basic b))
    (run : Run (List Visit × σ)) :
    InTreeOrder root r.custom [(p, b)] run
      (exec (do
        visit root r p
        checkDepth r p.length
        applyBasic (h.beside (List Visit)) b
        count r .applied) run) := by
  have happlied : InTreeOrder root r.custom [(p, b)] run
      (exec (do
        visit root r p
        checkDepth r p.length
        applyBasic (h.beside (List Visit)) b) run) := by
    rw [exec_visit hat]
    split
    · rw [exec_applyBasic, Handler.beside_applyBasic, Run.seeing_game, Run.seeing_player]
      have hvisits : run.player.1 <+: run.player.1 ++ [⟨p, .basic b, run.game⟩] :=
        List.prefix_append _ _
      rcases h.applyBasic b run.game run.player.2 with ⟨m | _, game, player⟩ <;>
        exact ⟨[(p, b)], ⟨hvisits, List.prefix_append _ _⟩, List.filterMap_append,
          List.filterMap_append, fun _ => .refl _, fun _ _ _ => rfl⟩
    · exact ⟨[], .refl run, (List.append_nil _).symm, (List.append_nil _).symm,
        fun _ => List.nil_sublist _, fun _ _ h => nomatch h⟩
  have hcounted := inTreeOrder_bind happlied fun _ _ _ => (silent_count r .applied).inTreeOrder
  simpa only [bind_assoc, List.append_nil] using hcounted

/-- At an inner node there is the order of what is done below, which starts with the node seen. -/
theorem inTreeOrder_node {n : Effect} (hat : root.at? p = some n) (hn : n.basic? = none)
    {m : Resolve (List Visit × σ) Unit}
    (hm : ∀ run, ⟨p, n, run.game⟩ ∈ run.player.1 →
      InTreeOrder root r.custom L run (exec m run)) (run : Run (List Visit × σ)) :
    InTreeOrder root r.custom L run
      (exec (do visit root r p; checkDepth r p.length; m) run) := by
  rw [exec_visit hat]
  split
  · have hseen : run.Precedes (run.seeing [⟨p, n, run.game⟩]) :=
      ⟨List.prefix_append _ _, List.prefix_rfl⟩
    have hleaves : (run.seeing [⟨p, n, run.game⟩]).leaves = run.leaves := by
      simp [Run.leaves, Visit.leaf?, hn]
    obtain ⟨l, hl⟩ := hm (run.seeing [⟨p, n, run.game⟩]) (by simp)
    exact ⟨l, hseen.trans hl.goesOn, hleaves ▸ hl.leaves, hl.passed, hl.sublist, hl.all⟩
  · exact ⟨[], .refl run, (List.append_nil _).symm, (List.append_nil _).symm,
      fun _ => List.nil_sublist _, fun _ _ h => nomatch h⟩

theorem inTreeOrder_conditional {c : Condition} {t : Effect} {f : Option Effect} {mk : Marks}
    (hat : root.at? p = some (.conditional c t f mk)) {yes no : Resolve (List Visit × σ) Unit}
    (hyes : ∀ run, InTreeOrder root r.custom L run (exec yes run))
    (hno : ∀ run, InTreeOrder root r.custom L' run (exec no run)) (hnone : f = none → L' = [])
    (run : Run (List Visit × σ)) :
    InTreeOrder root r.custom (L ++ L') run
      (exec (do
        visit root r p
        checkDepth r p.length
        if ← test r c then yes else no) run) := by
  refine inTreeOrder_node hat rfl (fun run hv => ?_) run
  refine (silent_test r c).inTreeOrder_bind fun b run' hb hext => ?_
  cases b with
  | false =>
    refine (hno run').widen (fun _ _ _ => List.sublist_append_right L L') fun later hlater hw => ?_
    -- The condition has been asked and does not hold, so something has been left out.
    have hholds := hw.thorough.holding _ ((hext.trans hlater).mem_visits hv) c
      (Visit.asked_conditional c t f mk ▸ List.mem_singleton_self c)
    exact absurd (hholds.symm.trans (value_of_exec_test hb).symm) nofun
  | true =>
    refine (hyes run').widen (fun _ _ _ => List.sublist_append_left L L') fun later _ hw => ?_
    rw [hnone (hw.straight.hasOneWay hat), List.append_nil]

theorem inTreeOrder_multi {bs : List (Condition × Effect)} {d : Option Effect} {mk : Marks}
    (hat : root.at? p = some (.multi bs d mk)) {first : Resolve (List Visit × σ) Bool}
    {other : Resolve (List Visit × σ) Unit}
    (hfirst : ∀ run, (∀ later, run.Precedes later → later.IsWhole root r.custom →
        bs.length ≤ 1 ∧ ∀ b ∈ bs, (b.1.outcome r.custom run.game).value = true) →
      InTreeOrder root r.custom L run (exec first run))
    (hother : ∀ run, InTreeOrder root r.custom L' run (exec other run))
    (hnone : d = none → L' = []) (run : Run (List Visit × σ)) :
    InTreeOrder root r.custom (L ++ L') run
      (exec (do
        visit root r p
        checkDepth r p.length
        let taken ← first
        if taken then pure () else other) run) := by
  refine inTreeOrder_node hat rfl (fun run hv => ?_) run
  refine inTreeOrder_bind (hfirst run fun later hlater hw => ?_) fun taken run' _ => ?_
  · obtain ⟨hone, -⟩ := hw.straight.hasOneWay hat
    exact ⟨hone, fun b hb => hw.thorough.holding _ (hlater.mem_visits hv) b.1
      (Visit.mem_asked_multi hone hb d mk)⟩
  · cases taken with
    | false => exact hother run'
    | true =>
      refine (inTreeOrder_pure ()).widen (fun _ _ _ => List.nil_sublist L') fun later _ hw => ?_
      exact (hnone (hw.straight.hasOneWay hat).2).symm

/-- Of the branches, too, the leaves are in order. If nothing is left out, there is at most one, and
its condition holds. -/
theorem inTreeOrder_branch {c : Condition} {rest : List (Condition × Effect)}
    {here : Resolve (List Visit × σ) Unit} {next : Resolve (List Visit × σ) Bool}
    (hone : ∀ later, run.Precedes later → later.IsWhole root r.custom →
      rest = [] ∧ (c.outcome r.custom run.game).value = true)
    (hhere : ∀ run, InTreeOrder root r.custom L run (exec here run))
    (hnext : ∀ run', run.Precedes run' → (∀ later, run'.Precedes later →
        ¬ later.IsWhole root r.custom) → InTreeOrder root r.custom L' run' (exec next run'))
    (hnil : rest = [] → L' = []) :
    InTreeOrder root r.custom (L ++ L') run
      (exec (do
        if ← test r c then
          here
          return true
        else next) run) := by
  refine (silent_test r c).inTreeOrder_bind fun holds run' hholds hext => ?_
  cases holds with
  | false =>
    have hnot (later : Run (List Visit × σ)) (hlater : run'.Precedes later) :
        ¬ later.IsWhole root r.custom := by
      intro hw
      obtain ⟨-, hvalue⟩ := hone later (hext.trans hlater) hw
      exact absurd (hvalue.symm.trans (value_of_exec_test hholds).symm) nofun
    exact (hnext run' hext hnot).widen (fun _ _ _ => List.sublist_append_right L L')
      fun later hlater hw => absurd hw (hnot later hlater)
  | true =>
    have hfirst : InTreeOrder root r.custom (L ++ []) run' (exec (do here; return true) run') :=
      inTreeOrder_bind (hhere run') fun _ _ _ => inTreeOrder_pure true
    rw [List.append_nil] at hfirst
    refine hfirst.widen (fun _ _ _ => List.sublist_append_left L L') fun later hlater hw => ?_
    rw [hnil (hone later (hext.trans hlater) hw).1, List.append_nil]

theorem inTreeOrder_choice (h : Handler σ) {c : Choice} (hat : root.at? p = some c.toEffect)
    {f : Fin c.options.length → Resolve (List Visit × σ) Unit}
    {L : Fin c.options.length → List (Place × Basic)}
    (hf : ∀ k run, InTreeOrder root r.custom (L k) run (exec (f k) run))
    (run : Run (List Visit × σ)) :
    InTreeOrder root r.custom ((List.finRange c.options.length).flatMap L) run
      (exec (do
        visit root r p
        checkDepth r p.length
        let ps ← choose r (h.beside (List Visit)) c
        inOrder (ps.map f)) run) := by
  refine inTreeOrder_node hat rfl (fun run _ => ?_) run
  refine inTreeOrder_bind (inTreeOrder_choose r h c) fun ps run' hps => ?_
  have hselection := selection_of_exec_choose hps
  refine (inTreeOrder_inOrder ps hf run').widen (fun later hext ho => ?_) fun later hext hw => ?_
  · exact (sublist_finRange (ho.pairwise (hext.mem_selections hselection))).flatMap L
  · rw [hw.eq_finRange (hext.mem_selections hselection)]
    rfl

theorem inTreeOrder_forEach {t : String} {b : Effect} {d : String} {mk : Marks}
    (hat : root.at? p = some (.forEach t b d mk)) {body : Resolve (List Visit × σ) Unit}
    (hbody : ∀ run, InTreeOrder root r.custom L run (exec body run))
    (run : Run (List Visit × σ)) :
    InTreeOrder root r.custom L run
      (exec (do
        visit root r p
        checkDepth r p.length
        let n ← tally r t
        count r (.repeating n)
        repeated body n.toNat) run) := by
  refine inTreeOrder_node hat rfl (fun run hv => ?_) run
  refine (silent_tally r t).inTreeOrder_bind fun n _ hn htallied => ?_
  refine (silent_count r (.repeating n)).inTreeOrder_bind fun _ run' _ hcounted => ?_
  have hext := htallied.trans hcounted
  rw [count_of_exec_tally hn]
  refine (inTreeOrder_repeated hbody _ run').widen (fun later hlater ho => ?_)
    fun later hlater hw => ?_
  · have hsingle := ho.single _ ((hext.trans hlater).mem_visits hv) _ rfl
    exact flatten_replicate_sublist hsingle L
  · have hcount := hw.thorough.counting _ ((hext.trans hlater).mem_visits hv) _ rfl
    rw [hcount]
    exact List.append_nil L

end

end Resolve

namespace Effect

open Resolve

variable {σ : Type} {root : Effect} (r : Rules) (h : Handler σ)

mutual

/-- Resolving a tree visits leaves in the order of its leaves. -/
theorem inTreeOrder_watchAt (p : Place) (e : Effect) (hat : root.at? p = some e)
    (run : Run (List Visit × σ)) :
    InTreeOrder root r.custom (leavesOf (e.nodesAt p)) run
      (exec (watchAt (visit root r) r (h.beside (List Visit)) p e) run) := by
  cases e with
  | basic b => exact inTreeOrder_leaf h hat run
  | conditional c t f m =>
    have ht := inTreeOrder_watchAt (p ++ [.ifTrue]) t (at?_child hat rfl)
    have hf := inTreeOrder_watchOption (p ++ [.ifFalse]) f
      fun e he => at?_child hat (by rw [child?, he])
    have hall := inTreeOrder_conditional hat ht hf (fun hnone => hnone ▸ rfl) run
    rwa [← leavesOf_append] at hall
  | multi bs d m =>
    have hbs := inTreeOrder_watchBranches p 0 bs fun k b hk => at?_child hat (by simp [child?, hk])
    have hd := inTreeOrder_watchOption (p ++ [.default]) d
      fun e he => at?_child hat (by rw [child?, he])
    have hall := inTreeOrder_multi hat hbs hd (fun hnone => hnone ▸ rfl) run
    rwa [← leavesOf_append] at hall
  | choice d lo hi os m =>
    have hos := inTreeOrder_watchEach p .option 0 os fun k => at?_child hat (by simp [child?])
    have hleaves : leavesOf (nodesAt p (.choice d lo hi os m)) = _ :=
      leavesOf_listNodesAt p .option 0 os
    simp only [Nat.zero_add] at hos hleaves
    rw [watchAt_choice, hleaves]
    exact inTreeOrder_choice (c := ⟨d, lo, hi, os, m⟩) h hat hos run
  | forEach t b d m =>
    have hb := inTreeOrder_watchAt (p ++ [.body]) b (at?_child hat rfl)
    exact inTreeOrder_forEach hat hb run
  | composite es d m =>
    have hes := inTreeOrder_watchEach p .member 0 es fun k => at?_child hat (by simp [child?])
    have hleaves : leavesOf (nodesAt p (.composite es d m)) = _ :=
      leavesOf_listNodesAt p .member 0 es
    rw [watchAt, watchEach_eq, hleaves]
    exact inTreeOrder_node hat rfl (fun run _ => inTreeOrder_inOrder _ hes run) run
termination_by structural e

theorem inTreeOrder_watchOption (p : Place) (o : Option Effect)
    (hat : ∀ e, o = some e → root.at? p = some e) (run : Run (List Visit × σ)) :
    InTreeOrder root r.custom (leavesOf (optionNodesAt p o)) run
      (exec (watchOption (visit root r) r (h.beside (List Visit)) p o) run) := by
  cases o with
  | none => exact inTreeOrder_pure ()
  | some e => exact inTreeOrder_watchAt p e (hat e rfl) run
termination_by structural o

theorem inTreeOrder_watchEach (p : Place) (label : Nat → Segment) (i : Nat) (es : List Effect)
    (hat : ∀ k : Fin es.length, root.at? (p ++ [label (i + k.val)]) = some (es.get k))
    (k : Fin es.length) (run : Run (List Visit × σ)) :
    InTreeOrder root r.custom (leavesOf ((es.get k).nodesAt (p ++ [label (i + k.val)]))) run
      (exec (watchAt (visit root r) r (h.beside (List Visit)) (p ++ [label (i + k.val)]) (es.get k))
        run) := by
  cases es with
  | nil => exact k.elim0
  | cons e rest =>
    have he := inTreeOrder_watchAt (p ++ [label i]) e (hat ⟨0, Nat.succ_pos _⟩)
    have hrest := inTreeOrder_watchEach p label (i + 1) rest fun k => by
      simpa [Nat.add_assoc, Nat.add_comm 1] using hat k.succ
    cases k using Fin.cases with
    | zero => exact he run
    | succ k => simpa [Nat.add_assoc, Nat.add_comm 1] using hrest k run
termination_by structural es

theorem inTreeOrder_watchBranches (p : Place) (i : Nat) (bs : List (Condition × Effect))
    (hat : ∀ (k : Nat) b, bs[k]? = some b → root.at? (p ++ [.branch (i + k)]) = some b.2)
    (run : Run (List Visit × σ))
    (hone : ∀ later, run.Precedes later → later.IsWhole root r.custom →
      bs.length ≤ 1 ∧ ∀ b ∈ bs, (b.1.outcome r.custom run.game).value = true) :
    InTreeOrder root r.custom (leavesOf (branchNodesAt p i bs)) run
      (exec (watchBranches (visit root r) r (h.beside (List Visit)) p i bs) run) := by
  cases bs with
  | nil => exact inTreeOrder_pure false
  | cons b rest =>
    obtain ⟨c, e⟩ := b
    have he := inTreeOrder_watchAt (p ++ [.branch i]) e (hat 0 (c, e) rfl)
    have hrest := inTreeOrder_watchBranches p (i + 1) rest fun k b hk => by
      simpa [Nat.add_assoc, Nat.add_comm 1] using hat (k + 1) b hk
    have hfirst (later : Run (List Visit × σ)) (hext : run.Precedes later)
        (hw : later.IsWhole root r.custom) :
        rest = [] ∧ (c.outcome r.custom run.game).value = true := by
      obtain ⟨hlength, hvalues⟩ := hone later hext hw
      exact ⟨by simpa using hlength, hvalues (c, e) List.mem_cons_self⟩
    have hall := inTreeOrder_branch hfirst he
      (fun run' _ hnot => hrest run' fun later hext hw => absurd hw (hnot later hext))
      fun hnil => hnil ▸ rfl
    rwa [← leavesOf_append] at hall
termination_by structural bs

end

/-! ## Whole resolutions -/

variable (e : Effect) (g : GameState) (s : σ)

/-- In a resolution in which every selection is in increasing order and nothing is counted above
one, the basic effects that were to be applied are, also if it ends with an error, leaves of the
tree in their order. They are all its leaves if the resolution comes to a report, every condition
that it asks holds, it selects all options, everything is counted as one, and the tree has nothing
for other cases. -/
theorem resolve_inTreeOrder (horderly : Orderly (e.visits r h g s) (e.resolve r h g s).calls) :
    (e.visited r h g s).alone = e.resolve r h g s ∧
    e.leaves.map Prod.snd = e.walk.filterMap basic? ∧
    (e.resolve r h g s).calls.filterMap Call.passed? =
      ((e.visits r h g s).filterMap Visit.leaf?).map Prod.snd ∧
    ((e.visits r h g s).filterMap Visit.leaf?).Sublist e.leaves ∧
    ∀ report, (e.resolve r h g s).result = .ok report → e.IsStraight →
      Thorough r.custom (e.visits r h g s) (e.resolve r h g s).calls →
      (e.visits r h g s).filterMap Visit.leaf? = e.leaves := by
  have halone := alone_visited e r h g s
  have hcalls : (e.resolve r h g s).calls = (e.visited r h g s).calls := by
    rw [← halone]
    rfl
  have hresult : (e.resolve r h g s).result = (e.visited r h g s).result := by
    rw [← halone]
    rfl
  obtain ⟨l, hl⟩ := inTreeOrder_watchAt r h [] e rfl (.start g ([], s))
  have hleaves : (e.visits r h g s).filterMap Visit.leaf? = l := hl.leaves
  rw [hcalls] at horderly ⊢
  rw [hleaves, hresult]
  refine ⟨halone, e.leaves_map_snd, hl.passed, hl.sublist horderly, ?_⟩
  intro report hreport hstraight hthorough
  obtain ⟨hok, -⟩ := Resolution.ofOutcome_result_eq_ok_iff.mp hreport
  exact hl.all ⟨hstraight, horderly, hthorough⟩ () hok

/-- A tree with nodes of every shape, and with nothing for other cases. -/
def festival : Effect :=
  sequence [
    .forEach "justicia_activa" (.plain .heal "Cura a un enfermo") "Por cada Justicia" .none,
    .conditional (.custom "siempre")
      (oneOf "Elige:" [.plain .buildBuilding "Construye", .plain .introduceLaw "Legisla"])
      none .none,
    .multi [(.custom "siempre", .plain .changeHunger "Sube el hambre")] none .none]

/-- All conditions hold. -/
def festivalRules : Rules := ⟨.default, some (Decider.evaluator (.always true)), .stops⟩

/-- Justice is active once. -/
def festivalState : GameState := GameState.empty.setHope .justice ⟨1, 0⟩

/-- With all options chosen, all leaves are visited in their order. -/
theorem resolve_inTreeOrder_festival :
    let res := festival.resolve festivalRules Script.empty.handler festivalState .all
    let vs := festival.visits festivalRules Script.empty.handler festivalState .all
    Orderly vs res.calls ∧ Thorough festivalRules.custom vs res.calls ∧ festival.IsStraight ∧
      res.result = .ok ⟨4, 1, 1, []⟩ ∧ vs.filterMap Visit.leaf? = festival.leaves := by
  intro res vs
  have horderly : Orderly vs res.calls := by decide +kernel
  have hthorough : Thorough festivalRules.custom vs res.calls := by decide +kernel
  have hstraight : festival.IsStraight := by decide +kernel
  have hreport : res.result = .ok ⟨4, 1, 1, []⟩ := by decide +kernel
  obtain ⟨-, -, -, -, hall⟩ := resolve_inTreeOrder festivalRules Script.empty.handler festival
    festivalState .all horderly
  exact ⟨horderly, hthorough, hstraight, hreport, hall _ hreport hstraight hthorough⟩

end Effect

end CityCards
