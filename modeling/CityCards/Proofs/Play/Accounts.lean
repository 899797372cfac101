import CityCards.Play.Scripted
import CityCards.Proofs.Play.Counting

/-!
# What a report accounts for

A report has three counts. Two of them are about calls of the handler, which are on record. The
third is about the bodies of repeated effects, and to say how often one of these was entered the
resolution is watched: beside the state of the handler stand the places of all nodes entered, in
order. Without the places this is the resolution.

A repeated effect adds to its count before it does anything, so the count runs ahead of the bodies
entered and only the end brings the two together. What is proved of a part is therefore how far it
lets the bodies catch up; that of a tree is one if the tree itself is a body, and none otherwise.

Main definitions:
* `Effect.watched`: a resolution that keeps the places of the nodes entered.
* `Place.isBody`: a place where the body of a repeated effect stands.
* `Resolve.Tallies`: how far a part lets the bodies entered catch up with their count.

Results:
* `Effect.alone_watched`: the resolution that keeps places is the resolution.
* `Effect.tallies_watchAt`: a tree that is a body catches up by one, any other tree by none.
* `Effect.resolve_accounts`: what changes the states, and what the counts of a report are.
-/

namespace CityCards

/-- The place is that of a body of a repeated effect. -/
def Place.isBody (p : Place) : Bool := p.getLast? == some .body

@[simp] theorem Place.isBody_append_singleton (p : Place) (s : Segment) :
    Place.isBody (p ++ [s]) = (s == .body) := by
  rw [isBody, List.getLast?_append]
  rfl

namespace Run

variable {σ : Type}

/-- How many bodies of repeated effects have been entered. -/
def bodies (run : Run (List Place × σ)) : Nat := run.player.1.countP Place.isBody

end Run

namespace Resolve

variable {σ α β : Type} {o : Overflow}

/-- Keeps the place of a node. -/
def note (p : Place) : Resolve (List Place × σ) Unit :=
  modify fun run => { run with player := (run.player.1 ++ [p], run.player.2) }

/-! ## The count and the bodies entered -/

/-- If all goes well, then the bodies entered come `k` closer to their count. -/
def Tallies (o : Overflow) (k : Nat) (m : Resolve (List Place × σ) α) : Prop :=
  ∀ run a run', exec m run = (.ok a, run') →
    ∃ n, o.Counts n run.report.iterations run'.report.iterations ∧
      run'.bodies = run.bodies + n + k

theorem tallies_bind {j k : Nat} {m : Resolve (List Place × σ) α}
    {f : α → Resolve (List Place × σ) β} (hm : Tallies o j m) (hf : ∀ a, Tallies o k (f a)) :
    Tallies o (j + k) (m >>= f) := by
  intro run b run'' h
  obtain ⟨a, run', hfirst, hnext⟩ := exists_of_exec_bind_eq_ok h
  obtain ⟨n, hcount, hbodies⟩ := hm run a run' hfirst
  obtain ⟨n', hcount', hbodies'⟩ := hf a run' b run'' hnext
  exact ⟨n + n', hcount.trans hcount', by omega⟩

theorem tallies_seq {m : Resolve (List Place × σ) α} {f : α → Resolve (List Place × σ) β}
    (hm : Tallies o 0 m) (hf : ∀ a, Tallies o 0 (f a)) : Tallies o 0 (m >>= f) :=
  tallies_bind hm hf

/-- From the one run to the other no node has been entered and no body counted. -/
structure Uncounted (run run' : Run (List Place × σ)) : Prop where
  places : run'.player.1 = run.player.1
  iterations : run'.report.iterations = run.report.iterations

theorem tallies_of_uncounted {m : Resolve (List Place × σ) α}
    (hm : ∀ run, Uncounted run (exec m run).2) : Tallies o 0 m := by
  intro run a run' h
  have hrun := hm run
  rw [h] at hrun
  refine ⟨0, ?_, ?_⟩
  · rw [hrun.iterations]
    exact .refl o _
  · rw [Run.bodies, Run.bodies, hrun.places, Nat.add_zero]

theorem tallies_pure (a : α) : Tallies (σ := σ) o 0 (pure a) :=
  tallies_of_uncounted fun _ => ⟨rfl, rfl⟩

theorem tallies_inOrder {ms : List (Resolve (List Place × σ) Unit)}
    (h : ∀ m ∈ ms, Tallies o 0 m) : Tallies o 0 (inOrder ms) := by
  induction ms with
  | nil => exact tallies_pure ()
  | cons m rest ih =>
    have hrest := ih fun n hn => h n (List.mem_cons_of_mem _ hn)
    exact tallies_seq (h m List.mem_cons_self) fun _ => hrest

theorem tallies_repeated {m : Resolve (List Place × σ) Unit} (h : Tallies o 1 m) (n : Nat) :
    Tallies o n (repeated m n) := by
  induction n with
  | zero => exact tallies_pure ()
  | succ n ih =>
    have hboth : Tallies o (1 + n) (repeated m (n + 1)) := tallies_bind h fun _ => ih
    rwa [Nat.add_comm] at hboth

/-- Nothing but bodies makes them fall behind their count. -/
theorem tallies_count (r : Rules) {entry : Report} (hentry : entry.iterations = 0) :
    Tallies (σ := σ) o 0 (count r entry) := by
  refine tallies_of_uncounted fun run => ?_
  rw [exec_count]
  split
  · exact ⟨rfl, rfl⟩
  · exact ⟨rfl, by simp [Report.add, hentry]⟩

theorem tallies_tally (r : Rules) (target : String) : Tallies (σ := σ) o 0 (tally r target) := by
  refine tallies_of_uncounted fun run => ?_
  rw [exec_tally]
  cases Tally.parse? target with
  | some t => exact ⟨rfl, rfl⟩
  | none => cases r.config.strict <;> exact ⟨rfl, rfl⟩

/-- To resolve a body as often as has been counted brings count and bodies together again. -/
theorem tallies_repeating (r : Rules) (n : UInt32) {m : Resolve (List Place × σ) Unit}
    (h : Tallies r.overflow 1 m) :
    Tallies r.overflow 0 (do count r (.repeating n); repeated m n.toNat) := by
  intro run a run' hrun
  rw [exec_bind, exec_count] at hrun
  by_cases hover : run.report.Overflows r.overflow (.repeating n)
  · rw [if_pos hover] at hrun
    cases hrun
  · rw [if_neg hover] at hrun
    obtain ⟨k, hcount, hbodies⟩ := tallies_repeated h _ _ _ _ hrun
    have hadd : r.overflow.Counts n.toNat run.report.iterations
        (run.report.iterations + n) := .of_add fun h => hover ⟨h.1, .inr (.inr h.2)⟩
    refine ⟨n.toNat + k, hadd.trans hcount, ?_⟩
    simp only [Run.bodies] at hbodies ⊢
    omega

theorem tallies_note (p : Place) : Tallies (σ := σ) o p.isBody.toNat (note p) := by
  intro run a run' h
  cases h
  refine ⟨0, .refl o _, ?_⟩
  cases hp : p.isBody <;> simp [Run.bodies, hp]

theorem tallies_checkDepth (r : Rules) (depth : Nat) :
    Tallies (σ := σ) o 0 (checkDepth r depth) := by
  refine tallies_of_uncounted fun run => ?_
  rw [exec_checkDepth]
  split <;> exact ⟨rfl, rfl⟩

theorem tallies_test (r : Rules) (c : Condition) : Tallies (σ := σ) o 0 (test r c) := by
  refine tallies_of_uncounted fun run => ?_
  rw [exec_test]
  cases (c.outcome r.custom run.game).anomaly with
  | none => exact ⟨rfl, rfl⟩
  | some a => cases r.config.strict <;> exact ⟨rfl, rfl⟩

theorem tallies_applyBasic (h : Handler σ) (b : Basic) :
    Tallies o 0 (applyBasic (h.beside (List Place)) b) := by
  refine tallies_of_uncounted fun run => ?_
  rw [exec_applyBasic, Handler.beside_applyBasic]
  rcases h.applyBasic b run.game run.player.2 with ⟨_ | _, game, player⟩ <;> exact ⟨rfl, rfl⟩

theorem tallies_choose (r : Rules) (h : Handler σ) (c : Choice) :
    Tallies o 0 (choose r (h.beside (List Place)) c) := by
  refine tallies_seq (tallies_of_uncounted fun run => ?_) fun is =>
    tallies_seq (tallies_count r rfl) fun _ => ?_
  · rw [exec_makeChoice, Handler.beside_makeChoice]
    rcases h.makeChoice c run.player.2 with ⟨_ | _, player⟩ <;> exact ⟨rfl, rfl⟩
  · cases select (List.finRange c.options.length) is with
    | ok ps => exact tallies_pure ps
    | error e => exact tallies_of_uncounted fun _ => ⟨rfl, rfl⟩

/-- At a node only its place counts, if what is done after entering it does not. -/
theorem tallies_node (r : Rules) (p : Place) {m : Resolve (List Place × σ) Unit}
    (hm : Tallies o 0 m) :
    Tallies o p.isBody.toNat (do note p; checkDepth r p.length; m) :=
  tallies_bind (tallies_note p) fun _ => tallies_bind (tallies_checkDepth r _) fun _ => hm

/-- A child that is not a body lets no body catch up. -/
theorem tallies_child {p : Place} {s : Segment} {m : Resolve (List Place × σ) Unit}
    (hs : (s == .body) = false) (hm : Tallies o (Place.isBody (p ++ [s])).toNat m) :
    Tallies o 0 m := by
  rwa [Place.isBody_append_singleton, hs] at hm

end Resolve

namespace Effect

open Resolve

variable {σ : Type}

mutual

/-- A tree that is a body lets the bodies entered catch up by one, any other tree by none. -/
theorem tallies_watchAt (r : Rules) (h : Handler σ) (p : Place) (e : Effect) :
    Tallies r.overflow p.isBody.toNat (watchAt note r (h.beside (List Place)) p e) := by
  cases e with
  | basic b =>
    exact tallies_node r p (tallies_seq (tallies_applyBasic h b) fun _ => tallies_count r rfl)
  | conditional c t f m =>
    have ht := tallies_child rfl (tallies_watchAt r h (p ++ [.ifTrue]) t)
    have hf := tallies_watchOption r h p .ifFalse f rfl
    refine tallies_node r p (tallies_seq (tallies_test r c) fun b => ?_)
    cases b
    · exact hf
    · exact ht
  | multi bs d m =>
    have hbs := tallies_watchBranches r h p 0 bs
    have hd := tallies_watchOption r h p .default d rfl
    refine tallies_node r p (tallies_seq hbs fun taken => ?_)
    cases taken
    · exact hd
    · exact tallies_pure ()
  | choice d lo hi os m =>
    have hos := tallies_watchEach r h p .option (fun _ => rfl) 0 os
    rw [watchEach_eq] at hos
    rw [watchAt_choice]
    refine tallies_node r p (tallies_seq (tallies_choose r h _) fun ps => tallies_inOrder ?_)
    simpa using fun k _ => hos _ (List.mem_map_of_mem (List.mem_finRange k))
  | forEach t b d m =>
    have hb := tallies_watchAt r h (p ++ [.body]) b
    rw [Place.isBody_append_singleton] at hb
    exact tallies_node r p (tallies_seq (tallies_tally r t) fun n => tallies_repeating r n hb)
  | composite es d m =>
    have hes := tallies_watchEach r h p .member (fun _ => rfl) 0 es
    exact tallies_node r p (tallies_inOrder hes)
termination_by structural e

theorem tallies_watchOption (r : Rules) (h : Handler σ) (p : Place) (s : Segment)
    (o : Option Effect) (hs : (s == .body) = false) :
    Tallies r.overflow 0 (watchOption note r (h.beside (List Place)) (p ++ [s]) o) := by
  cases o with
  | none => exact tallies_pure ()
  | some e => exact tallies_child hs (tallies_watchAt r h (p ++ [s]) e)
termination_by structural o

theorem tallies_watchEach (r : Rules) (h : Handler σ) (p : Place) (label : Nat → Segment)
    (hlabel : ∀ i, (label i == .body) = false) (i : Nat) (es : List Effect) :
    ∀ m ∈ watchEach note r (h.beside (List Place)) p label i es, Tallies r.overflow 0 m := by
  cases es with
  | nil => simp [watchEach]
  | cons e rest =>
    have he := tallies_child (hlabel i) (tallies_watchAt r h (p ++ [label i]) e)
    have hrest := tallies_watchEach r h p label hlabel (i + 1) rest
    exact List.forall_mem_cons.mpr ⟨he, hrest⟩
termination_by structural es

theorem tallies_watchBranches (r : Rules) (h : Handler σ) (p : Place) (i : Nat)
    (bs : List (Condition × Effect)) :
    Tallies r.overflow 0 (watchBranches note r (h.beside (List Place)) p i bs) := by
  cases bs with
  | nil => exact tallies_pure false
  | cons b rest =>
    obtain ⟨c, e⟩ := b
    have he := tallies_child rfl (tallies_watchAt r h (p ++ [.branch i]) e)
    have hrest := tallies_watchBranches r h p (i + 1) rest
    refine tallies_seq (tallies_test r c) fun holds => ?_
    cases holds
    · exact hrest
    · exact tallies_seq he fun _ => tallies_pure true
termination_by structural bs

end

/-! ## Whole resolutions -/

variable (e : Effect) (r : Rules) (h : Handler σ) (g : GameState) (s : σ)

/-- The resolution of a tree that keeps the places of the nodes entered, in order. -/
def watched : Resolution (List Place × σ) :=
  .ofOutcome (exec (watchAt note r (h.beside (List Place)) [] e) (.start g ([], s)))

/-- The places are kept beside the state of the handler, so nothing else depends on them. -/
theorem alone_watched : (e.watched r h g s).alone = e.resolve r h g s := by
  have hnote (p : Place) : Carries (List Place) Unit (note (σ := σ) p) (pure ()) := fun _ => rfl
  have hstart : Run.start g s = (Run.start g (([] : List Place), s)).alone := rfl
  rw [resolve_eq, hstart, carries_watchAt hnote r h e]
  rfl

theorem iterations_of_report {report : Report} (hreport : (e.resolve r h g s).result = .ok report) :
    r.overflow.Counts ((e.watched r h g s).player.1.countP Place.isBody) 0 report.iterations := by
  rw [← alone_watched] at hreport
  obtain ⟨hok, rfl⟩ := Resolution.ofOutcome_result_eq_ok_iff.mp hreport
  -- Neither in the beginning nor by the root itself is a body entered.
  obtain ⟨n, hcount, hbodies⟩ := tallies_watchAt r h [] e (.start g ([], s)) () _ (Prod.ext hok rfl)
  obtain rfl : (e.watched r h g s).player.1.countP Place.isBody = n :=
    hbodies.trans (Nat.zero_add n)
  exact hcount

/-- What a resolution does to the states of city and handler, also if it ends with an error, is
what the recorded calls do in order. If it comes to a report, then this has counted, in words, the
basic effects that were to be applied, the choices that were to be made, and the bodies of repeated
effects that were entered. -/
theorem resolve_accounts :
    (∀ x, h.Plays (g, s) (e.resolve r h g s).calls x ↔
      x = ((e.resolve r h g s).game, (e.resolve r h g s).player)) ∧
    (e.watched r h g s).alone = e.resolve r h g s ∧
    ∀ report, (e.resolve r h g s).result = .ok report →
      r.overflow.Counts ((e.resolve r h g s).calls.countP Call.isApplied) 0 report.basicApplied ∧
      r.overflow.Counts ((e.resolve r h g s).calls.countP Call.isAsked) 0 report.choicesMade ∧
      r.overflow.Counts ((e.watched r h g s).player.1.countP Place.isBody) 0
        report.iterations := by
  have hplays := plays_resolve e r h g s
  refine ⟨fun x => ⟨fun hx => hx.unique hplays, ?_⟩, alone_watched e r h g s, ?_⟩
  · rintro rfl
    exact hplays
  · intro report hreport
    have hshows := shows_of_report hreport
    exact ⟨hshows.applied, hshows.chosen, iterations_of_report e r h g s hreport⟩

/-- Two loops, one in the other: two children, and three workers for each. -/
def nestedLoops : Effect :=
  .forEach "niño_usado_esta_ronda"
    (.forEach "trabajador_usado_esta_ronda" (.plain .heal "Cura") "Por trabajador" .none)
    "Por niño" .none

example : (nestedLoops.resolve ⟨.default, none, .stops⟩ Script.empty.handler
    (GameState.empty.setRound ⟨2, 3⟩) .all).result = .ok ⟨6, 0, 8, []⟩ := by decide +kernel

end Effect

end CityCards
