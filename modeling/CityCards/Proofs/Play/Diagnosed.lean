import CityCards.Proofs.Play.Visits

/-!
# What is diagnosed at visits

Nothing is diagnosed in a resolution but at the visits of nodes, and what is diagnosed at a visit
can be told from the node and the state: the anomalies of the conditions that are asked, or the
target if no one knows it. Under lenient rules all this is noted, visit by visit, and under strict
rules the first of it ends the resolution.

A part of a resolution may be what is left to do at a node that has been visited before. Then some
of what is diagnosed at that visit is still owed, and comes before what is diagnosed at the visits
of the part itself.

Main definitions:
* `Visit.diagnostics`: what is diagnosed at a visit.
* `Effect.LeadsTo`: the way to a node, through no body of a repeated effect with unknown target.
* `Resolve.Diagnosed`: a part diagnoses what is owed and what there is at its visits.

Results:
* `Resolve.diagnosed_bind`: what is diagnosed in parts one after the other.
* `Effect.diagnosed_watchAt`: what is diagnosed in resolving a tree.
* `Effect.result_eq_anomaly_iff`, `Effect.diagnostics_eq_flatMap`: strict and lenient resolutions.
-/

namespace CityCards

/-! ## Diagnostics -/

/-- What is diagnosed of the condition in a state. -/
def Condition.diagnostics (custom : Option CustomEvaluator) (g : GameState) (c : Condition) :
    List Diagnostic :=
  (c.outcome custom g).anomaly.toList.map .condition

/-- What is diagnosed of the target. -/
def Tally.diagnostics (target : String) : List Diagnostic :=
  if (parse? target).isNone then [.unknownTarget target] else []

/-- What is diagnosed at the visit, in order. -/
def Visit.diagnostics (custom : Option CustomEvaluator) (v : Visit) : List Diagnostic :=
  match v.node with
  | .forEach t _ _ _ => Tally.diagnostics t
  | _ => (v.asked custom).flatMap (Condition.diagnostics custom v.game)

theorem Condition.diagnostics_of_none {c : Condition} {custom : Option CustomEvaluator}
    {g : GameState} (h : (c.outcome custom g).anomaly = none) : c.diagnostics custom g = [] := by
  rw [diagnostics, h]
  rfl

theorem Condition.diagnostics_of_some {c : Condition} {custom : Option CustomEvaluator}
    {g : GameState} {a : Anomaly} (h : (c.outcome custom g).anomaly = some a) :
    c.diagnostics custom g = [.condition a] := by
  rw [diagnostics, h]
  rfl

/-! ## Ways -/

/-- The tree has the node at the place, and on the way there no body is entered that is repeated for
an unknown target. -/
structure Effect.LeadsTo (root : Effect) (p : Place) (n : Effect) : Prop where
  found : root.at? p = some n
  known : ∀ q t b d m, root.at? q = some (.forEach t b d m) → q ++ [.body] <+: p →
    Tally.parse? t ≠ none

namespace Effect.LeadsTo

variable {root n c : Effect} {p : Place} {s : Segment}

theorem refl (root : Effect) : root.LeadsTo [] root where
  found := rfl
  known q _ _ _ _ _ hq := by simp at hq

/-- The way goes on to any child, but for bodies that are repeated for unknown targets. -/
theorem child (h : root.LeadsTo p n) (hc : n.child? s = some c)
    (hn : ∀ t b d m, n = .forEach t b d m → Tally.parse? t ≠ none) : root.LeadsTo (p ++ [s]) c where
  found := at?_child h.found hc
  known q t b d m hq hprefix := by
    obtain heq | hprefix := List.prefix_concat_iff.mp hprefix
    · obtain ⟨rfl, -⟩ := List.append_inj' heq rfl
      rw [h.found] at hq
      exact hn t b d m (Option.some.inj hq)
    · exact h.known q t b d m hq hprefix

end Effect.LeadsTo

namespace Resolve

variable {σ α β : Type}

/-- From this run on the nodes `vs` are visited. Under lenient rules what is owed is noted, and
after that what is diagnosed at these visits; under strict rules the first of what is owed or is
diagnosed at a visit is the end. There is no end for another diagnostic. -/
structure Diagnoses (root : Effect) (r : Rules) (owed : List Diagnostic) (vs : List Visit)
    (run : Run (List Visit × σ)) (outcome : Except ResolveError α × Run (List Visit × σ)) :
    Prop where
  visits : outcome.2.player.1 = run.player.1 ++ vs
  leads : ∀ v ∈ vs, root.LeadsTo v.place v.node
  noted : r.config.strict = false → outcome.2.report.diagnostics =
    run.report.diagnostics ++ (owed ++ vs.flatMap (Visit.diagnostics r.custom))
  fatal : r.config.strict = true → ∀ ds ∈ owed :: vs.map (Visit.diagnostics r.custom),
    ∀ d ∈ ds.head?, outcome.1 = .error (.anomaly d)
  blamed : ∀ d, outcome.1 = .error (.anomaly d) → r.config.strict = true ∧
    ∃ ds ∈ owed :: vs.map (Visit.diagnostics r.custom), d ∈ ds.head?

/-- From this run on, what is owed is diagnosed, and then what there is at visits. -/
def Diagnosed (root : Effect) (r : Rules) (owed : List Diagnostic) (run : Run (List Visit × σ))
    (outcome : Except ResolveError α × Run (List Visit × σ)) : Prop :=
  ∃ vs, Diagnoses root r owed vs run outcome

variable {root : Effect} {r : Rules} {owed : List Diagnostic} {run run' : Run (List Visit × σ)}

/-! ## Parts in sequence -/

/-- Where no node is visited, nothing is noted, and there is no end for a diagnostic, nothing is
diagnosed. -/
theorem diagnosed_nil {outcome : Except ResolveError α × Run (List Visit × σ)}
    (hvisits : outcome.2.player.1 = run.player.1)
    (hnoted : outcome.2.report.diagnostics = run.report.diagnostics)
    (hnot : ∀ d, outcome.1 ≠ .error (.anomaly d)) : Diagnosed root r [] run outcome := by
  refine ⟨[], ?_, nofun, fun _ => ?_, fun _ ds hds d hd => ?_, fun d hd => absurd hd (hnot d)⟩
  · rw [hvisits, List.append_nil]
  · rw [hnoted]
    exact (List.append_nil _).symm
  · rw [List.mem_singleton.mp hds] at hd
    cases hd

theorem diagnosed_pure (a : α) : Diagnosed root r [] run (exec (pure a) run) :=
  diagnosed_nil rfl rfl nofun

theorem diagnosed_bind {m : Resolve (List Visit × σ) α} {f : α → Resolve (List Visit × σ) β}
    (hm : Diagnosed root r owed run (exec m run))
    (hf : ∀ a run', exec m run = (.ok a, run') → Diagnosed root r [] run' (exec (f a) run')) :
    Diagnosed root r owed run (exec (m >>= f) run) := by
  obtain ⟨vs, hvs⟩ := hm
  rw [exec_bind]
  generalize exec m run = outcome at hvs hf
  obtain ⟨err | a, run'⟩ := outcome
  · have hsame {d : Diagnostic} : (Except.error err : Except ResolveError α) = .error (.anomaly d) ↔
        (Except.error err : Except ResolveError β) = .error (.anomaly d) := by simp
    exact ⟨vs, hvs.visits, hvs.leads, hvs.noted,
      fun hs ds hds d hd => hsame.mp (hvs.fatal hs ds hds d hd),
      fun d hd => hvs.blamed d (hsame.mpr hd)⟩
  · obtain ⟨vs', hvs'⟩ := hf a run' rfl
    refine ⟨vs ++ vs', ?_, fun v hv => ?_, fun hs => ?_, fun hs ds hds d hd => ?_, fun d hd => ?_⟩
    · rw [hvs'.visits, hvs.visits, List.append_assoc]
    · exact (List.mem_append.mp hv).elim (hvs.leads v) (hvs'.leads v)
    · rw [hvs'.noted hs, hvs.noted hs, List.flatMap_append]
      simp only [List.nil_append, List.append_assoc]
    · rw [List.map_append, ← List.cons_append, List.mem_append] at hds
      obtain hds | hds := hds
      · -- The first part has gone on, so nothing in it was the end.
        cases hvs.fatal hs ds hds d hd
      · exact hvs'.fatal hs ds (List.mem_cons_of_mem _ hds) d hd
    · obtain ⟨hs, ds, hds, hhead⟩ := hvs'.blamed d hd
      refine ⟨hs, ds, ?_, hhead⟩
      obtain rfl | hds := List.mem_cons.mp hds
      · cases hhead
      · rw [List.map_append, ← List.cons_append]
        exact List.mem_append_right _ hds

/-- What is owed next is noted, or it is the end. -/
theorem diagnosed_cons {d : Diagnostic} {outcome : Except ResolveError α × Run (List Visit × σ)}
    (hlenient : r.config.strict = false → Diagnosed root r owed (run.note d) outcome)
    (hstrict : r.config.strict = true → outcome = (.error (.anomaly d), run)) :
    Diagnosed root r (d :: owed) run outcome := by
  cases hs : r.config.strict with
  | true =>
    rw [hstrict hs]
    refine ⟨[], (List.append_nil _).symm, nofun, fun hnot => ?_, fun _ ds hds d' hd => ?_,
      fun d' hd => ?_⟩
    · cases hs.symm.trans hnot
    · rw [List.mem_singleton.mp hds] at hd
      cases hd
      rfl
    · cases hd
      exact ⟨hs, _, List.mem_cons_self, rfl⟩
  | false =>
    obtain ⟨vs, hvs⟩ := hlenient hs
    refine ⟨vs, hvs.visits, hvs.leads, fun _ => ?_, fun hnot => ?_, fun d' hd => ?_⟩
    · rw [hvs.noted hs, Run.note, List.append_assoc]
      rfl
    · cases hs.symm.trans hnot
    · cases hs.symm.trans (hvs.blamed d' hd).1

theorem diagnosed_inOrder {ι : Type} {f : ι → Resolve (List Visit × σ) Unit} (is : List ι)
    (h : ∀ i run, Diagnosed root r [] run (exec (f i) run)) (run : Run (List Visit × σ)) :
    Diagnosed root r [] run (exec (inOrder (is.map f)) run) := by
  induction is generalizing run with
  | nil => exact diagnosed_pure ()
  | cons i rest ih => exact diagnosed_bind (h i run) fun _ run' _ => ih run'

theorem diagnosed_repeated {m : Resolve (List Visit × σ) Unit}
    (h : ∀ run, Diagnosed root r [] run (exec m run)) (n : Nat) (run : Run (List Visit × σ)) :
    Diagnosed root r [] run (exec (repeated m n) run) := by
  induction n generalizing run with
  | zero => exact diagnosed_pure ()
  | succ n ih => exact diagnosed_bind (h run) fun _ run' _ => ih run'

/-! ## Steps -/

/-- When a condition is asked, its anomaly is diagnosed, and then what is still owed. -/
theorem diagnosed_test {c : Condition} {f : Bool → Resolve (List Visit × σ) β}
    (hf : ∀ run', run'.game = run.game →
      Diagnosed root r owed run' (exec (f (c.outcome r.custom run.game).value) run')) :
    Diagnosed root r (c.diagnostics r.custom run.game ++ owed) run
      (exec (test r c >>= f) run) := by
  rw [exec_bind, exec_test]
  cases ha : (c.outcome r.custom run.game).anomaly with
  | none =>
    rw [Condition.diagnostics_of_none ha]
    exact hf run rfl
  | some a =>
    rw [Condition.diagnostics_of_some ha]
    refine diagnosed_cons (fun hs => ?_) fun hs => ?_
    · simp only [hs]
      exact hf (run.note _) rfl
    · simp only [hs]
      rfl

/-- When a target is counted, it is diagnosed if it is unknown, and then it counts zero. -/
theorem diagnosed_tally {t : String} {f : UInt32 → Resolve (List Visit × σ) β}
    (hf : ∀ n run', (Tally.parse? t = none → n = 0) → Diagnosed root r [] run' (exec (f n) run')) :
    Diagnosed root r (Tally.diagnostics t) run (exec (tally r t >>= f) run) := by
  rw [exec_bind, exec_tally, Tally.diagnostics]
  cases ht : Tally.parse? t with
  | some target => exact hf _ run (by simp [ht])
  | none =>
    refine diagnosed_cons (fun hs => ?_) fun hs => ?_
    · simp only [hs]
      exact hf 0 _ fun _ => rfl
    · simp only [hs]
      rfl

theorem diagnosed_applyBasic (h : Handler σ) (b : Basic) :
    Diagnosed root r [] run (exec (applyBasic (h.beside (List Visit)) b) run) := by
  rw [exec_applyBasic, Handler.beside_applyBasic]
  rcases h.applyBasic b run.game run.player.2 with ⟨_ | _, game, player⟩ <;>
    exact diagnosed_nil rfl rfl nofun

/-- Counting notes no diagnostic. -/
theorem diagnosed_count {entry : Report} (hentry : entry.diagnostics = []) :
    Diagnosed root r [] run (exec (count r entry) run) := by
  rw [exec_count]
  split
  · exact diagnosed_nil rfl rfl nofun
  · exact diagnosed_nil rfl (by simp [Report.add, hentry]) nofun

theorem diagnosed_choose (h : Handler σ) (c : Choice) :
    Diagnosed root r [] run (exec (choose r (h.beside (List Visit)) c) run) := by
  have hask : Diagnosed root r [] run (exec (makeChoice (h.beside (List Visit)) c) run) := by
    rw [exec_makeChoice, Handler.beside_makeChoice]
    rcases h.makeChoice c run.player.2 with ⟨_ | _, player⟩ <;>
      exact diagnosed_nil rfl rfl nofun
  refine diagnosed_bind hask fun is _ _ => diagnosed_bind (diagnosed_count rfl) fun _ _ _ => ?_
  cases hselect : select (List.finRange c.options.length) is with
  | ok ps => exact diagnosed_pure ps
  | error e =>
    obtain ⟨i, -, -, rfl⟩ := exists_of_select_eq_error hselect
    exact diagnosed_nil rfl rfl nofun

/-! ## Nodes -/

section

variable {p : Place}

/-- At the visit of a node its diagnostics are owed to what is done there. -/
theorem diagnosed_node {n : Effect} (hlead : root.LeadsTo p n)
    {m : Resolve (List Visit × σ) Unit}
    (hm : ∀ run', run'.game = run.game →
      Diagnosed root r (Visit.diagnostics r.custom ⟨p, n, run.game⟩) run' (exec m run')) :
    Diagnosed root r [] run (exec (do visit root r p; checkDepth r p.length; m) run) := by
  rw [exec_visit hlead.found]
  split
  · obtain ⟨vs, hvs⟩ := hm (run.seeing [⟨p, n, run.game⟩]) rfl
    refine ⟨⟨p, n, run.game⟩ :: vs, ?_, fun v hv => ?_, hvs.noted, fun hs ds hds d hd => ?_,
      fun d hd => ?_⟩
    · rw [hvs.visits, Run.seeing_player, List.append_assoc]
      rfl
    · obtain rfl | hv := List.mem_cons.mp hv
      · exact hlead
      · exact hvs.leads v hv
    · obtain rfl | hds := List.mem_cons.mp hds
      · cases hd
      · exact hvs.fatal hs ds hds d hd
    · obtain ⟨hs, ds, hds, hhead⟩ := hvs.blamed d hd
      exact ⟨hs, ds, List.mem_cons_of_mem _ hds, hhead⟩
  · exact diagnosed_nil rfl rfl nofun

theorem diagnosed_conditional {c : Condition} {t : Effect} {f : Option Effect} {mk : Marks}
    (hlead : root.LeadsTo p (.conditional c t f mk)) {yes no : Resolve (List Visit × σ) Unit}
    (hyes : ∀ run, Diagnosed root r [] run (exec yes run))
    (hno : ∀ run, Diagnosed root r [] run (exec no run)) (run : Run (List Visit × σ)) :
    Diagnosed root r [] run
      (exec (do
        visit root r p
        checkDepth r p.length
        if ← test r c then yes else no) run) := by
  refine diagnosed_node hlead fun run' hgame => ?_
  rw [Visit.diagnostics, Visit.asked_conditional, List.flatMap_cons, ← hgame]
  refine diagnosed_test fun run'' _ => ?_
  split
  · exact hyes run''
  · exact hno run''

/-- The branches are asked up to the first that holds. -/
theorem diagnosed_branch {v : Visit} {c : Condition} {rest : List Condition}
    {here : Resolve (List Visit × σ) Unit} {next : Resolve (List Visit × σ) Bool}
    (hgame : run.game = v.game) (hhere : ∀ run, Diagnosed root r [] run (exec here run))
    (hnext : ∀ run', run'.game = v.game → Diagnosed root r
      ((v.askedOf r.custom rest).flatMap (Condition.diagnostics r.custom v.game)) run'
      (exec next run')) :
    Diagnosed root r
      ((v.askedOf r.custom (c :: rest)).flatMap (Condition.diagnostics r.custom v.game)) run
      (exec (do
        if ← test r c then
          here
          return true
        else next) run) := by
  rw [Visit.askedOf, List.flatMap_cons, ← hgame]
  refine diagnosed_test fun run' hsame => ?_
  by_cases hholds : v.Holds r.custom c
  · have hvalue : (c.outcome r.custom run.game).value = true := hgame ▸ hholds
    rw [if_pos hholds, hvalue]
    exact diagnosed_bind (hhere run') fun _ _ _ => diagnosed_pure true
  · have hvalue : (c.outcome r.custom run.game).value = false := by
      rw [hgame]
      exact Bool.eq_false_iff.mpr hholds
    rw [if_neg hholds, hvalue, hgame]
    exact hnext run' (hsame.trans hgame)

theorem diagnosed_forEach {t : String} {b : Effect} {d : String} {mk : Marks}
    (hlead : root.LeadsTo p (.forEach t b d mk)) {body : Resolve (List Visit × σ) Unit}
    (hbody : Tally.parse? t ≠ none → ∀ run, Diagnosed root r [] run (exec body run))
    (run : Run (List Visit × σ)) :
    Diagnosed root r [] run
      (exec (do
        visit root r p
        checkDepth r p.length
        let n ← tally r t
        count r (.repeating n)
        repeated body n.toNat) run) := by
  refine diagnosed_node hlead fun run' _ => ?_
  refine diagnosed_tally fun n _ hn => diagnosed_bind (diagnosed_count rfl) fun _ run'' _ => ?_
  by_cases ht : Tally.parse? t = none
  · rw [hn ht]
    exact diagnosed_pure ()
  · exact diagnosed_repeated (hbody ht) n.toNat run''

end

end Resolve

namespace Effect

open Resolve

variable {σ : Type} {root : Effect} (r : Rules) (h : Handler σ)

mutual

/-- Resolving a tree diagnoses what there is at its visits. -/
theorem diagnosed_watchAt (p : Place) (e : Effect) (hlead : root.LeadsTo p e)
    (run : Run (List Visit × σ)) :
    Diagnosed root r [] run
      (exec (watchAt (visit root r) r (h.beside (List Visit)) p e) run) := by
  cases e with
  | basic b =>
    exact diagnosed_node hlead fun _ _ =>
      diagnosed_bind (diagnosed_applyBasic h b) fun _ _ _ => diagnosed_count rfl
  | conditional c t f m =>
    have ht := diagnosed_watchAt (p ++ [.ifTrue]) t (hlead.child rfl nofun)
    have hf := diagnosed_watchOption (p ++ [.ifFalse]) f
      fun e he => hlead.child (by rw [child?, he]) nofun
    exact diagnosed_conditional hlead ht hf run
  | multi bs d m =>
    have hd := diagnosed_watchOption (p ++ [.default]) d
      fun e he => hlead.child (by rw [child?, he]) nofun
    refine diagnosed_node hlead fun run' hgame => ?_
    refine diagnosed_bind ?_ fun taken run'' _ => ?_
    · exact diagnosed_watchBranches p 0 bs
        (fun k b hk => hlead.child (by simp [child?, hk]) nofun) ⟨p, .multi bs d m, run.game⟩ run'
        hgame
    · cases taken with
      | true => exact diagnosed_pure ()
      | false => exact hd run''
  | choice d lo hi os m =>
    have hos := diagnosed_watchEach p .option 0 os fun k => hlead.child (by simp [child?]) nofun
    simp only [Nat.zero_add] at hos
    rw [watchAt_choice]
    refine diagnosed_node hlead fun run' _ => ?_
    exact diagnosed_bind (diagnosed_choose h ⟨d, lo, hi, os, m⟩) fun ps run'' _ =>
      diagnosed_inOrder ps hos run''
  | forEach t b d m =>
    have hb (ht : Tally.parse? t ≠ none) := diagnosed_watchAt (p ++ [.body]) b
      (hlead.child rfl fun t' _ _ _ heq => by cases heq; exact ht)
    exact diagnosed_forEach hlead hb run
  | composite es d m =>
    have hes := diagnosed_watchEach p .member 0 es fun k => hlead.child (by simp [child?]) nofun
    rw [watchAt, watchEach_eq]
    exact diagnosed_node hlead fun run' _ => diagnosed_inOrder _ hes run'
termination_by structural e

theorem diagnosed_watchOption (p : Place) (o : Option Effect)
    (hlead : ∀ e, o = some e → root.LeadsTo p e) (run : Run (List Visit × σ)) :
    Diagnosed root r [] run
      (exec (watchOption (visit root r) r (h.beside (List Visit)) p o) run) := by
  cases o with
  | none => exact diagnosed_pure ()
  | some e => exact diagnosed_watchAt p e (hlead e rfl) run
termination_by structural o

theorem diagnosed_watchEach (p : Place) (label : Nat → Segment) (i : Nat) (es : List Effect)
    (hlead : ∀ k : Fin es.length, root.LeadsTo (p ++ [label (i + k.val)]) (es.get k))
    (k : Fin es.length) (run : Run (List Visit × σ)) :
    Diagnosed root r [] run
      (exec (watchAt (visit root r) r (h.beside (List Visit)) (p ++ [label (i + k.val)]) (es.get k))
        run) := by
  cases es with
  | nil => exact k.elim0
  | cons e rest =>
    have he := diagnosed_watchAt (p ++ [label i]) e (hlead ⟨0, Nat.succ_pos _⟩)
    have hrest := diagnosed_watchEach p label (i + 1) rest fun k => by
      simpa [Nat.add_assoc, Nat.add_comm 1] using hlead k.succ
    cases k using Fin.cases with
    | zero => exact he run
    | succ k => simpa [Nat.add_assoc, Nat.add_comm 1] using hrest k run
termination_by structural es

theorem diagnosed_watchBranches (p : Place) (i : Nat) (bs : List (Condition × Effect))
    (hlead : ∀ (k : Nat) b, bs[k]? = some b → root.LeadsTo (p ++ [.branch (i + k)]) b.2)
    (v : Visit) (run : Run (List Visit × σ)) (hgame : run.game = v.game) :
    Diagnosed root r
      ((v.askedOf r.custom (bs.map Prod.fst)).flatMap (Condition.diagnostics r.custom v.game)) run
      (exec (watchBranches (visit root r) r (h.beside (List Visit)) p i bs) run) := by
  cases bs with
  | nil => exact diagnosed_pure false
  | cons b rest =>
    obtain ⟨c, e⟩ := b
    have he := diagnosed_watchAt (p ++ [.branch i]) e (hlead 0 (c, e) rfl)
    have hrest := diagnosed_watchBranches p (i + 1) rest (fun k b hk => by
      simpa [Nat.add_assoc, Nat.add_comm 1] using hlead (k + 1) b hk) v
    exact diagnosed_branch hgame he hrest
termination_by structural bs

end

/-! ## Whole resolutions -/

variable {e : Effect} {r h} {g : GameState} {s : σ} {v : Visit}

theorem diagnoses_visited (e : Effect) (r : Rules) (h : Handler σ) (g : GameState) (s : σ) :
    Diagnoses e r [] (e.visits r h g s) (.start g ([], s))
      (exec (watchAt (visit e r) r (h.beside (List Visit)) [] e) (.start g ([], s))) := by
  obtain ⟨vs, hvs⟩ := diagnosed_watchAt r h [] e (.refl e) (.start g ([], s))
  have hvisits : e.visits r h g s = vs := hvs.visits
  rwa [hvisits]

theorem result_visited (e : Effect) (r : Rules) (h : Handler σ) (g : GameState) (s : σ) :
    (e.visited r h g s).result = (e.resolve r h g s).result := by
  rw [← alone_visited]
  rfl

theorem leadsTo_of_mem_visits (hv : v ∈ e.visits r h g s) : e.LeadsTo v.place v.node :=
  (diagnoses_visited e r h g s).leads v hv

/-- A strict resolution ends for a diagnostic exactly if that is the first at a visit. -/
theorem result_eq_anomaly_iff (hstrict : r.config.strict = true) {d : Diagnostic} :
    (e.resolve r h g s).result = .error (.anomaly d) ↔
      ∃ v ∈ e.visits r h g s, d ∈ (v.diagnostics r.custom).head? := by
  have hvisited := diagnoses_visited e r h g s
  rw [← result_visited, visited, Resolution.ofOutcome_result_eq_error_iff]
  constructor
  · intro hend
    obtain ⟨-, ds, hds, hd⟩ := hvisited.blamed d hend
    obtain rfl | hds := List.mem_cons.mp hds
    · cases hd
    · obtain ⟨v, hv, rfl⟩ := List.mem_map.mp hds
      exact ⟨v, hv, hd⟩
  · rintro ⟨v, hv, hd⟩
    exact hvisited.fatal hstrict _ (List.mem_cons_of_mem _ (List.mem_map_of_mem hv)) d hd

/-- The report of a lenient resolution has what is diagnosed at all visits, in order. -/
theorem diagnostics_eq_flatMap (hlenient : r.config.strict = false) {report : Report}
    (hreport : (e.resolve r h g s).result = .ok report) :
    report.diagnostics = (e.visits r h g s).flatMap (Visit.diagnostics r.custom) := by
  rw [← result_visited, visited, Resolution.ofOutcome_result_eq_ok_iff] at hreport
  rw [← hreport.2]
  exact (diagnoses_visited e r h g s).noted hlenient

end Effect

end CityCards
