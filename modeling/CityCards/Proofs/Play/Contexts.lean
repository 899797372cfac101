import CityCards.Play.Scripted
import CityCards.Proofs.Play.Additive
import Mathlib.Data.List.Forall2

/-!
# Changing a tree at one node

Where a node of a tree is replaced by another that is resolved alike, the whole tree is resolved
alike, whatever stands around the node. Only a choice above the node can tell the difference, for it
is put to the handler with its options. So handlers are looked at that answer the question itself,
and of the calls it is said that they put the same questions.

Main definitions:
* `Effect.InContext`: two trees that differ in one node.
* `Choice.question`: a choice as one sees it who does not look into the options.
* `Handler.AnswersQuestions`: choices with the same question get the same answer.
* `Resolve.Matching`: two parts do the same, apart from the options that they put to the handler.

Results:
* `Resolve.Additive.matching`: an additive part matches itself.
* `Resolve.matching_makeChoice`: choices with the same question are made alike.
* `Effect.matching_inContext`: trees that differ in one node match if the two nodes do.
-/

namespace CityCards

/-! ## Questions -/

/-- What is asked by a choice: how many of how many options are to be taken, and what for. -/
structure Question where
  description : String
  least : UInt32
  most : UInt32
  count : Nat
  deriving DecidableEq, Repr

/-- The choice as one sees it who does not look into the options. -/
def Choice.question (c : Choice) : Question := ⟨c.description, c.least, c.most, c.options.length⟩

/-- The handler answers a choice by its question alone. -/
def Handler.AnswersQuestions {σ : Type} (h : Handler σ) : Prop :=
  ∀ c c' : Choice, c.question = c'.question → h.makeChoice c = h.makeChoice c'

theorem Script.answersQuestions_handler (s : Script) : s.handler.AnswersQuestions := by
  rintro ⟨d, lo, hi, os, m⟩ ⟨d', lo', hi', os', m'⟩ hquestion
  simp only [Choice.question, Question.mk.injEq] at hquestion
  obtain ⟨rfl, rfl, rfl, hcount⟩ := hquestion
  funext p
  have hchoose : Choice.choose ⟨d, lo, hi, os, m⟩ = Choice.choose ⟨d, lo, hi, os', m'⟩ := by
    simp only [Choice.choose, Choice.lower, Choice.upper, hcount]
  have hanswer : p.answer ⟨d, lo, hi, os, m⟩ = p.answer ⟨d, lo, hi, os', m'⟩ := by
    cases p with
    | listed selections => cases selections <;> rfl
    | all => simp only [Picks.answer, hcount]
    | random g => simp only [Picks.answer, hchoose]
  simp only [handler, makeChoice, hanswer]

/-- The calls are the same, apart from the options of a choice. -/
inductive Call.Matches : Call → Call → Prop where
  | applied (b : Basic) (before : GameState) (answer : Except String Unit) :
    Matches (.applied b before answer) (.applied b before answer)
  | asked {c c' : Choice} (hquestion : c.question = c'.question) (hmarks : c.marks = c'.marks)
    (answer : Except String (List Nat)) : Matches (.asked c answer) (.asked c' answer)

theorem Call.matches_refl (c : Call) : c.Matches c := by
  cases c with
  | applied b before answer => exact .applied b before answer
  | asked c answer => exact .asked rfl rfl answer

/-- The runs are the same, apart from the options of the choices that were put to the handler. -/
structure Run.Matches {σ : Type} (run run' : Run σ) : Prop where
  game : run.game = run'.game
  player : run.player = run'.player
  report : run.report = run'.report
  calls : List.Forall₂ Call.Matches run.calls run'.calls

/-- The resolutions are the same, apart from the options of the choices that were put to the
handler. -/
structure Resolution.Matches {σ : Type} (res res' : Resolution σ) : Prop where
  result : res.result = res'.result
  game : res.game = res'.game
  player : res.player = res'.player
  calls : List.Forall₂ Call.Matches res.calls res'.calls

namespace Resolve

variable {σ α β : Type}

/-- From runs that match, the two parts come to the same outcome and to runs that match. -/
def Matching (α : Type) (m n : Resolve σ α) : Prop :=
  ∀ run run' : Run σ, run.Matches run' →
    (exec m run).1 = (exec n run').1 ∧ (exec m run).2.Matches (exec n run').2

/-! ## Parts in sequence -/

theorem matching_pure (a : α) : Matching (σ := σ) α (pure a) (pure a) :=
  fun _ _ hrun => ⟨rfl, hrun⟩

theorem matching_bind {m n : Resolve σ α} {f g : α → Resolve σ β} (hm : Matching α m n)
    (hf : ∀ a, Matching β (f a) (g a)) : Matching β (m >>= f) (n >>= g) := by
  intro run run' hrun
  obtain ⟨hfirst, hruns⟩ := hm run run' hrun
  rw [exec_bind, exec_bind]
  generalize exec m run = outcome at hfirst hruns ⊢
  generalize exec n run' = outcome' at hfirst hruns ⊢
  obtain ⟨first, after⟩ := outcome
  obtain ⟨first', after'⟩ := outcome'
  obtain rfl : first = first' := hfirst
  cases first with
  | error e => exact ⟨rfl, hruns⟩
  | ok a => exact hf a after after' hruns

theorem sequential_matching : Sequential (Matching (σ := σ)) := ⟨matching_pure, matching_bind⟩

theorem matching_inOrder {ms ns : List (Resolve σ Unit)}
    (h : List.Forall₂ (Matching Unit) ms ns) : Matching Unit (inOrder ms) (inOrder ns) := by
  induction h with
  | nil => exact matching_pure ()
  | cons hhead _ ih => exact matching_bind hhead fun _ => ih

/-- A part that is additive does not look at the calls before it, so it matches itself. -/
theorem Additive.matching {o : Overflow} {m : Resolve σ α} (hm : Additive o m) :
    Matching α m m := by
  intro run run' hrun
  obtain ⟨game, player, report, calls⟩ := run
  obtain ⟨game', player', report', calls'⟩ := run'
  obtain ⟨rfl, rfl, rfl, hcalls⟩ := hrun
  have hexec (before : List Call) : exec m ⟨game, player, report, before⟩ =
      ((exec m ⟨game, player, report, []⟩).1,
        (exec m ⟨game, player, report, []⟩).2.following .empty before) := by
    have hbase := hm.fits ⟨game, player, report, []⟩ .empty before (Report.not_empty_overflows o _)
    rwa [Run.following, Report.empty_add, List.append_nil] at hbase
  rw [hexec calls, hexec calls']
  refine ⟨rfl, rfl, rfl, rfl, ?_⟩
  exact List.rel_append hcalls (List.forall₂_same.mpr fun c _ => c.matches_refl)

/-! ## Choices -/

theorem matching_makeChoice {h : Handler σ} (hh : h.AnswersQuestions) {c c' : Choice}
    (hquestion : c.question = c'.question) (hmarks : c.marks = c'.marks) :
    Matching (List Nat) (makeChoice h c) (makeChoice h c') := by
  intro run run' ⟨hgame, hplayer, hreport, hcalls⟩
  have hcall (answer : Except String (List Nat)) :
      List.Forall₂ Call.Matches (run.calls ++ [.asked c answer])
        (run'.calls ++ [.asked c' answer]) :=
    List.rel_append hcalls (.cons (.asked hquestion hmarks answer) .nil)
  rw [exec_makeChoice, exec_makeChoice, hh c c' hquestion, hplayer, hreport]
  rcases h.makeChoice c' run'.player with ⟨_ | is, player⟩
  · exact ⟨rfl, hgame, rfl, rfl, hcall _⟩
  · exact ⟨rfl, hgame, rfl, rfl, hcall _⟩

/-- From lists whose entries are related in order, related entries are selected. -/
theorem select_related {R : α → β → Prop} {as : List α} {bs : List β}
    (h : List.Forall₂ R as bs) (is : List Nat) :
    (∃ e, select as is = .error e ∧ select bs is = .error e) ∨
      ∃ as' bs', select as is = .ok as' ∧ select bs is = .ok bs' ∧ List.Forall₂ R as' bs' := by
  have hlength := h.length_eq
  induction is with
  | nil => exact Or.inr ⟨[], [], rfl, rfl, .nil⟩
  | cons i rest ih =>
    by_cases hi : i < as.length
    · have hi' : i < bs.length := by omega
      have hhead : R as[i] bs[i] := h.get hi hi'
      rw [select, select, List.getElem?_eq_getElem hi, List.getElem?_eq_getElem hi']
      obtain ⟨e, ha, hb⟩ | ⟨as', bs', ha, hb, htail⟩ := ih
      · exact Or.inl ⟨e, by simp only [ha, Except.map], by simp only [hb, Except.map]⟩
      · refine Or.inr ⟨as[i] :: as', bs[i] :: bs', ?_, ?_, .cons hhead htail⟩
        · simp only [ha, Except.map]
        · simp only [hb, Except.map]
    · have hi' : ¬i < bs.length := by omega
      rw [select, select, List.getElem?_eq_none (by omega), List.getElem?_eq_none (by omega),
        hlength]
      exact Or.inl ⟨.choiceOutOfRange i bs.length, rfl, rfl⟩

end Resolve

/-! ## Trees that differ in one node -/

open Resolve

namespace Effect

/-- The trees are the same but for one node, and the two nodes there are related. -/
inductive InContext (R : Effect → Effect → Prop) : Effect → Effect → Prop where
  | here {e e' : Effect} (h : R e e') : InContext R e e'
  | ifTrue (c : Condition) (f : Option Effect) (m : Marks) {t t' : Effect}
    (h : InContext R t t') : InContext R (.conditional c t f m) (.conditional c t' f m)
  | ifFalse (c : Condition) (t : Effect) (m : Marks) {f f' : Effect} (h : InContext R f f') :
    InContext R (.conditional c t (some f) m) (.conditional c t (some f') m)
  | branch (before : List (Condition × Effect)) (c : Condition)
    (after : List (Condition × Effect)) (d : Option Effect) (m : Marks) {e e' : Effect}
    (h : InContext R e e') :
    InContext R (.multi (before ++ (c, e) :: after) d m) (.multi (before ++ (c, e') :: after) d m)
  | default (bs : List (Condition × Effect)) (m : Marks) {d d' : Effect} (h : InContext R d d') :
    InContext R (.multi bs (some d) m) (.multi bs (some d') m)
  | option (d : String) (lo hi : UInt32) (before after : List Effect) (m : Marks) {e e' : Effect}
    (h : InContext R e e') :
    InContext R (.choice d lo hi (before ++ e :: after) m)
      (.choice d lo hi (before ++ e' :: after) m)
  | body (t d : String) (m : Marks) {b b' : Effect} (h : InContext R b b') :
    InContext R (.forEach t b d m) (.forEach t b' d m)
  | member (before after : List Effect) (d : Option String) (m : Marks) {e e' : Effect}
    (h : InContext R e e') :
    InContext R (.composite (before ++ e :: after) d m) (.composite (before ++ e' :: after) d m)

variable {σ : Type} {r : Rules} {h : Handler σ}

theorem matching_resolveEach {depth : Nat} {e e' : Effect} (before after : List Effect)
    (he : Matching Unit (resolveAt r h depth e) (resolveAt r h depth e')) :
    List.Forall₂ (Matching Unit) (resolveEach r h depth (before ++ e :: after))
      (resolveEach r h depth (before ++ e' :: after)) := by
  have hsame (es : List Effect) : List.Forall₂ (Matching Unit) (es.map (resolveAt r h depth))
      (es.map (resolveAt r h depth)) := by
    rw [List.forall₂_same]
    intro m hm
    obtain ⟨a, -, rfl⟩ := List.mem_map.mp hm
    exact (additive_resolveAt r h depth a).matching
  rw [resolveEach_eq, resolveEach_eq, List.map_append, List.map_append]
  exact List.rel_append (hsame before) (.cons he (hsame after))

theorem matching_resolveBranches {depth : Nat} {e e' : Effect}
    (before : List (Condition × Effect)) (c : Condition) (after : List (Condition × Effect))
    (he : Matching Unit (resolveAt r h depth e) (resolveAt r h depth e')) :
    Matching Bool (resolveBranches r h depth (before ++ (c, e) :: after))
      (resolveBranches r h depth (before ++ (c, e') :: after)) := by
  induction before with
  | nil =>
    refine matching_bind (additive_test r c).matching fun holds => ?_
    cases holds
    · exact (additive_resolveBranches r h depth after).matching
    · exact matching_bind he fun _ => matching_pure true
  | cons b rest ih =>
    refine matching_bind (additive_test r b.1).matching fun holds => ?_
    cases holds
    · exact ih
    · exact matching_bind (additive_resolveAt r h depth b.2).matching fun _ => matching_pure true

/-- If two nodes match at every depth, then so do trees that have them in the same place and are
the same otherwise. -/
theorem matching_inContext (hh : h.AnswersQuestions) {R : Effect → Effect → Prop}
    (hR : ∀ e e', R e e' → ∀ depth, Matching Unit (resolveAt r h depth e) (resolveAt r h depth e'))
    {e e' : Effect} (he : InContext R e e') (depth : Nat) :
    Matching Unit (resolveAt r h depth e) (resolveAt r h depth e') := by
  have hdepth (depth : Nat) : Matching (σ := σ) Unit (checkDepth r depth) (checkDepth r depth) :=
    (additive_checkDepth r depth).matching
  induction he generalizing depth with
  | here hnodes => exact hR _ _ hnodes depth
  | ifTrue c f m _ ih =>
    refine matching_bind (hdepth depth) fun _ =>
      matching_bind (additive_test r c).matching fun holds => ?_
    cases holds
    · exact (additive_resolveOption r h (depth + 1) f).matching
    · exact ih (depth + 1)
  | ifFalse c t m _ ih =>
    refine matching_bind (hdepth depth) fun _ =>
      matching_bind (additive_test r c).matching fun holds => ?_
    cases holds
    · exact ih (depth + 1)
    · exact (additive_resolveAt r h (depth + 1) t).matching
  | branch before c after d m _ ih =>
    refine matching_bind (hdepth depth) fun _ =>
      matching_bind (matching_resolveBranches before c after (ih (depth + 1))) fun taken => ?_
    cases taken
    · exact (additive_resolveOption r h (depth + 1) d).matching
    · exact matching_pure ()
  | default bs m _ ih =>
    refine matching_bind (hdepth depth) fun _ =>
      matching_bind (additive_resolveBranches r h (depth + 1) bs).matching fun taken => ?_
    cases taken
    · exact ih (depth + 1)
    · exact matching_pure ()
  | option d lo hi before after m _ ih =>
    have hquestion {os os' : List Effect} (hlength : os.length = os'.length) :
        Choice.question ⟨d, lo, hi, os, m⟩ = Choice.question ⟨d, lo, hi, os', m⟩ := by
      simp only [Choice.question, hlength]
    refine matching_bind (hdepth depth) fun _ =>
      matching_bind (matching_makeChoice hh (hquestion (by simp)) rfl) fun is =>
        matching_bind (additive_count r .chosen).matching fun _ => ?_
    obtain ⟨e, hs, hs'⟩ | ⟨ms, ns, hs, hs', hparts⟩ :=
      select_related (matching_resolveEach before after (ih (depth + 1))) is
    · rw [hs, hs']
      exact (additive_throw (o := r.overflow) e).matching
    · rw [hs, hs']
      exact matching_inOrder hparts
  | body t d m _ ih =>
    exact matching_bind (hdepth depth) fun _ =>
      matching_bind (additive_tally r t).matching fun n =>
        matching_bind (additive_count r (.repeating n)).matching fun _ =>
          sequential_matching.repeated (ih (depth + 1)) n.toNat
  | member before after d m _ ih =>
    exact matching_bind (hdepth depth) fun _ =>
      matching_inOrder (matching_resolveEach before after (ih (depth + 1)))

end Effect

theorem Resolution.matches_of_matching {σ : Type} {m n : Resolve σ Unit}
    (h : Matching Unit m n) (run : Run σ) :
    (ofOutcome (exec m run)).Matches (ofOutcome (exec n run)) := by
  have hsame : run.Matches run :=
    ⟨rfl, rfl, rfl, List.forall₂_same.mpr fun c _ => c.matches_refl⟩
  obtain ⟨houtcome, hgame, hplayer, hreport, hcalls⟩ := h run run hsame
  exact ⟨by rw [ofOutcome, ofOutcome, houtcome, hreport], hgame, hplayer, hcalls⟩

end CityCards
