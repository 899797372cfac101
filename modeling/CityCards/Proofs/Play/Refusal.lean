import CityCards.Play.Scripted
import CityCards.Proofs.Play.Recorded

/-!
# Handlers that fail

A failure of the handler ends a resolution at once, however deep in loops, choices and sequences the
call was made. To say so, a handler is made to fail at one call and to change nothing there: up to
this call the resolution is what it is with the handler itself, and after it there is nothing.

Main definitions:
* `Handler.failingAfter`: the handler, made to fail at the call after so many others.
* `Resolve.StoppedAfter`: what the outcome with the failing handler has to be.
* `Resolve.Interrupts`: a part with the failing handler does what it does otherwise, up to the
  failure.

Results:
* `Handler.Plays.failingAfter`: up to the failure the failing handler does what the handler does.
* `Effect.interrupts_resolveAt`: a tree resolved with the failing handler is cut short there.
* `Effect.resolve_failingAfter`: what that means for the results, the states and the calls.
-/

namespace CityCards

/-- The call, if the handler had refused it. -/
def Call.refused (m : String) : Call → Call
  | .applied b before _ => .applied b before (.error m)
  | .asked c _ => .asked c (.error m)

namespace Handler

variable {σ : Type}

/-- The handler, made to fail at the call that comes after `n` others, and to change nothing there.
Beside its state stands how many calls have been made. -/
def failingAfter (h : Handler σ) (n : Nat) (m : String) : Handler (Nat × σ) where
  applyBasic b g s :=
    if s.1 = n then (.error m, g, s.1 + 1, s.2)
    else
      let (answer, g, player) := h.applyBasic b g s.2
      (answer, g, s.1 + 1, player)
  makeChoice c s :=
    if s.1 = n then (.error m, s.1 + 1, s.2)
    else
      let (answer, player) := h.makeChoice c s.2
      (answer, s.1 + 1, player)

variable (h : Handler σ) (n : Nat) (m : String)

theorem failingAfter_applyBasic (b : Basic) (g : GameState) (s : Nat × σ) :
    (h.failingAfter n m).applyBasic b g s =
      if s.1 = n then (.error m, g, s.1 + 1, s.2)
      else match h.applyBasic b g s.2 with
        | (answer, g, player) => (answer, g, s.1 + 1, player) := rfl

theorem failingAfter_makeChoice (c : Choice) (s : Nat × σ) :
    (h.failingAfter n m).makeChoice c s =
      if s.1 = n then (.error m, s.1 + 1, s.2)
      else match h.makeChoice c s.2 with
        | (answer, player) => (answer, s.1 + 1, player) := rfl

end Handler

/-- The run with the number of calls beside the state of the handler. -/
def Run.counted {σ : Type} (run : Run σ) : Run (Nat × σ) :=
  run.withPlayer (run.calls.length, run.player)

/-- The resolution with the number of calls beside the state of the handler. -/
def Resolution.counted {σ : Type} (res : Resolution σ) : Resolution (Nat × σ) :=
  { res with player := (res.calls.length, res.player) }

/-! ## Calls up to the failure -/

namespace Handler

variable {σ : Type} {h : Handler σ} {n : Nat} {m : String}

/-- Before the failure, a call does what it does with the handler itself. -/
theorem Does.failingAfter {x y : GameState × σ} {c : Call} (hc : h.Does x c y) {j : Nat}
    (hj : j < n) : (h.failingAfter n m).Does (x.1, j, x.2) c (y.1, j + 1, y.2) := by
  cases hc with
  | applied b g s =>
    have hdoes := Does.applied (h := h.failingAfter n m) b g (j, s)
    rwa [failingAfter_applyBasic, if_neg (Nat.ne_of_lt hj)] at hdoes
  | asked c g s =>
    have hdoes := Does.asked (h := h.failingAfter n m) c g (j, s)
    rwa [failingAfter_makeChoice, if_neg (Nat.ne_of_lt hj)] at hdoes

/-- Before the failure, calls in a row do what they do with the handler itself. -/
theorem Plays.failingAfter {x y : GameState × σ} {cs : List Call} (hcs : h.Plays x cs y) {j : Nat}
    (hj : j + cs.length ≤ n) :
    (h.failingAfter n m).Plays (x.1, j, x.2) cs (y.1, j + cs.length, y.2) := by
  induction hcs generalizing j with
  | nil x => exact .nil _
  | cons head tail ih =>
    rw [List.length_cons] at hj ⊢
    have hhead := head.failingAfter (m := m) (show j < n by omega)
    have htail := ih (j := j + 1) (by omega)
    rw [Nat.add_assoc, Nat.add_comm 1] at htail
    exact .cons hhead htail

/-- The failing call changes nothing. -/
theorem Does.refused {x : GameState × σ} {y : GameState × Nat × σ} {c : Call}
    (hc : (h.failingAfter n m).Does (x.1, n, x.2) c y) : y = (x.1, n + 1, x.2) := by
  cases hc with
  | applied b g s => rw [failingAfter_applyBasic, if_pos rfl]
  | asked c g s => rw [failingAfter_makeChoice, if_pos rfl]

/-- Up to the failing call and with it, the failing handler comes to where the handler itself comes
before this call. -/
theorem Plays.eq_of_failingAfter {x y : GameState × σ} {z : GameState × Nat × σ}
    {before : List Call} {call : Call} (hbefore : h.Plays x before y)
    (hlength : before.length = n)
    (hz : (h.failingAfter n m).Plays (x.1, 0, x.2) (before ++ [call]) z) :
    z = (y.1, n + 1, y.2) := by
  obtain ⟨w, hw, hcall⟩ := hz.split
  have hsame := hbefore.failingAfter (m := m) (j := 0) (n := n) (by omega)
  obtain rfl := hw.unique hsame
  rw [Nat.zero_add, hlength] at hcall
  cases hcall with
  | cons head tail =>
    cases tail
    exact head.refused

end Handler

/-! ## Parts up to the failure -/

namespace Resolve

variable {σ α β : Type}

/-- The outcome with the handler that fails after `n` calls: the same if there are no more, or else
an end at the call that fails. -/
inductive StoppedAfter (n : Nat) (m : String) (full : Except ResolveError α × Run σ) :
    Except ResolveError α × Run (Nat × σ) → Prop where
  | within (hle : full.2.calls.length ≤ n) : StoppedAfter n m full (full.1, full.2.counted)
  | beyond (before : List Call) (call : Call) (after : List Call) (run : Run (Nat × σ))
    (hfull : full.2.calls = before ++ call :: after) (hlength : before.length = n)
    (hcut : run.calls = before ++ [call.refused m]) :
    StoppedAfter n m full (.error (.handler m), run)

/-- The second part, which has the failing handler, does what the first does up to the failure. -/
structure Interrupts (n : Nat) (m : String) (α : Type) (p : Resolve σ α)
    (q : Resolve (Nat × σ) α) : Prop where
  grows : ∀ run : Run σ, run.calls <+: (exec p run).2.calls
  cut : ∀ run : Run σ, run.calls.length ≤ n → StoppedAfter n m (exec p run) (exec q run.counted)

theorem interrupts_pure {n : Nat} {m : String} (a : α) :
    Interrupts (σ := σ) n m α (pure a) (pure a) :=
  ⟨fun _ => List.prefix_rfl, fun _ hle => .within hle⟩

theorem interrupts_bind {n : Nat} {m : String} {p : Resolve σ α} {q : Resolve (Nat × σ) α}
    {f : α → Resolve σ β} {g : α → Resolve (Nat × σ) β} (hp : Interrupts n m α p q)
    (hf : ∀ a, Interrupts n m β (f a) (g a)) : Interrupts n m β (p >>= f) (q >>= g) where
  grows := grows_bind hp.grows fun a => (hf a).grows
  cut run hle := by
    have hcut := hp.cut run hle
    rw [exec_bind, exec_bind]
    generalize exec p run = full at hcut ⊢
    generalize exec q run.counted = cut at hcut ⊢
    obtain ⟨e | a, run'⟩ := full
    · cases hcut with
      | within hle' => exact .within hle'
      | beyond before call after run'' hfull hlength hcalls =>
        exact .beyond before call after run'' hfull hlength hcalls
    · cases hcut with
      | within hle' => exact (hf a).cut run' hle'
      | beyond before call after run'' hfull hlength hcalls =>
        -- The failing part has ended; what the other one goes on to do comes after its calls.
        obtain ⟨rest, hrest⟩ := (hf a).grows run'
        refine .beyond before call (after ++ rest) run'' ?_ hlength hcalls
        rw [← hrest, hfull, List.append_assoc, List.cons_append]

theorem sequential_interrupts (n : Nat) (m : String) :
    Sequential (Interrupts (σ := σ) n m) := ⟨interrupts_pure, interrupts_bind⟩

theorem Silent.interrupts {p : (σ : Type) → Resolve σ α} (hp : Silent p) (n : Nat) (m : String)
    (σ : Type) : Interrupts n m α (p σ) (p (Nat × σ)) where
  grows run := (hp.same run).calls ▸ List.prefix_rfl
  cut run hle := by
    have hsame := hp.same run
    have hcounted : (exec (p σ) run).2.withPlayer (run.calls.length, run.player) =
        (exec (p σ) run).2.counted := by
      rw [Run.counted, hsame.calls, hsame.player]
    rw [Run.counted, hp.blind run, hcounted]
    exact .within (hsame.calls ▸ hle)

/-- One more call before the failure. -/
theorem stoppedAfter_call {n : Nat} {m : String} {full : Except ResolveError α × Run σ}
    {before : List Call} {call : Call} (hfull : full.2.calls = before ++ [call])
    (hlt : before.length < n) :
    StoppedAfter n m full (full.1, full.2.withPlayer (before.length + 1, full.2.player)) := by
  have hlength : full.2.calls.length = before.length + 1 := by rw [hfull, List.length_append]; rfl
  have hwithin : StoppedAfter n m full (full.1, full.2.counted) := .within (hlength ▸ hlt)
  rwa [Run.counted, hlength] at hwithin

theorem interrupts_applyBasic (h : Handler σ) (n : Nat) (m : String) (b : Basic) :
    Interrupts n m Unit (applyBasic h b) (applyBasic (h.failingAfter n m) b) where
  grows := (recorded_applyBasic h b).grows
  cut run hle := by
    have hgame : run.counted.game = run.game := rfl
    have hplayer : run.counted.player = (run.calls.length, run.player) := rfl
    rw [exec_applyBasic, exec_applyBasic, Handler.failingAfter_applyBasic, hgame, hplayer]
    rcases Nat.lt_or_eq_of_le hle with hlt | heq
    · rw [if_neg (Nat.ne_of_lt hlt)]
      rcases h.applyBasic b run.game run.player with ⟨_ | _, game, player⟩
      · exact stoppedAfter_call rfl hlt
      · exact stoppedAfter_call rfl hlt
    · rw [if_pos heq]
      rcases h.applyBasic b run.game run.player with ⟨_ | _, game, player⟩
      · exact .beyond run.calls _ [] _ rfl heq rfl
      · exact .beyond run.calls _ [] _ rfl heq rfl

theorem interrupts_makeChoice (h : Handler σ) (n : Nat) (m : String) (c : Choice) :
    Interrupts n m (List Nat) (makeChoice h c) (makeChoice (h.failingAfter n m) c) where
  grows := (recorded_makeChoice h c).grows
  cut run hle := by
    have hplayer : run.counted.player = (run.calls.length, run.player) := rfl
    rw [exec_makeChoice, exec_makeChoice, Handler.failingAfter_makeChoice, hplayer]
    rcases Nat.lt_or_eq_of_le hle with hlt | heq
    · rw [if_neg (Nat.ne_of_lt hlt)]
      rcases h.makeChoice c run.player with ⟨_ | _, player⟩
      · exact stoppedAfter_call rfl hlt
      · exact stoppedAfter_call rfl hlt
    · rw [if_pos heq]
      rcases h.makeChoice c run.player with ⟨_ | _, player⟩
      · exact .beyond run.calls _ [] _ rfl heq rfl
      · exact .beyond run.calls _ [] _ rfl heq rfl

end Resolve

/-! ## Whole resolutions -/

namespace Effect

open Resolve

variable {σ : Type} (e : Effect) (r : Rules) (h : Handler σ) (n : Nat) (m : String)

theorem interrupts_resolveAt :
    Interrupts n m Unit (resolveAt r h 0 e) (resolveAt r (h.failingAfter n m) 0 e) :=
  resolveAt_related (sequential_interrupts n m) [] e fun x _ =>
    visitRelated_of_silent (sequential_interrupts n m) h (h.failingAfter n m)
      (fun hp => hp.interrupts n m σ) (interrupts_applyBasic h n m) (interrupts_makeChoice h n m)
      r x.1.length x.2

variable (g : GameState) (s : σ)

/-- A handler that is made to fail after `n` calls. If the resolution with the handler itself makes
no more, it is the same. If it makes more, the failing handler ends it with its error at the next
call: no call is made after this one, all before it are as they were, and the states are those
which the handler itself has come to before this call. -/
theorem resolve_failingAfter :
    ((e.resolve r h g s).calls.length ≤ n →
      e.resolve r (h.failingAfter n m) g (0, s) = (e.resolve r h g s).counted) ∧
    (n < (e.resolve r h g s).calls.length →
      ∃ before call after, (e.resolve r h g s).calls = before ++ call :: after ∧
        before.length = n ∧
        (e.resolve r (h.failingAfter n m) g (0, s)).result = .error (.handler m) ∧
        (e.resolve r (h.failingAfter n m) g (0, s)).calls = before ++ [call.refused m] ∧
        ∃ x, h.Plays (g, s) before x ∧
          h.Plays x (call :: after) ((e.resolve r h g s).game, (e.resolve r h g s).player) ∧
          (e.resolve r (h.failingAfter n m) g (0, s)).game = x.1 ∧
          (e.resolve r (h.failingAfter n m) g (0, s)).player = (n + 1, x.2)) := by
  have hplays := plays_resolve e r h g s
  have hplays' := plays_resolve e r (h.failingAfter n m) g (0, s)
  have hcut := (interrupts_resolveAt e r h n m).cut (.start g s) (Nat.zero_le n)
  have hstart : (Run.start g s).counted = .start g (0, s) := rfl
  rw [hstart] at hcut
  simp only [resolve_eq] at hplays hplays' ⊢
  generalize exec (resolveAt r h 0 e) (.start g s) = full at *
  generalize exec (resolveAt r (h.failingAfter n m) 0 e) (.start g (0, s)) = cut at *
  cases hcut with
  | within hle => exact ⟨fun _ => rfl, fun hlt => absurd hle (Nat.not_le_of_lt hlt)⟩
  | beyond before call after run hfull hlength hcalls =>
    have hfull' : (Resolution.ofOutcome full).calls = before ++ call :: after := hfull
    rw [hfull'] at hplays ⊢
    obtain ⟨x, hbefore, hafter⟩ := hplays.split
    change (h.failingAfter n m).Plays (g, 0, s) run.calls (run.game, run.player) at hplays'
    rw [hcalls] at hplays'
    have hstates := hbefore.eq_of_failingAfter hlength hplays'
    refine ⟨fun hle => ?_, fun _ => ⟨before, call, after, rfl, hlength, rfl, hcalls, x, hbefore,
      hafter, congrArg Prod.fst hstates, congrArg Prod.snd hstates⟩⟩
    -- The failing call is one more than there would be.
    rw [List.length_append, List.length_cons] at hle
    omega

/-- Two effects, as often as children were put to work. -/
def pairLoop : Effect :=
  .forEach "niño_usado_esta_ronda" (.sequence [.plain .heal "Cura", .plain .treat "Trata"])
    "Por niño" .none

/-- A failure in the second of five rounds: neither the second effect of this round nor another
round comes after it. -/
theorem resolve_failingAfter_secondRound :
    2 < (pairLoop.resolve ⟨.default, none, .stops⟩ Script.empty.handler
      (GameState.empty.setRound ⟨5, 0⟩) .all).calls.length ∧
    (pairLoop.resolve ⟨.default, none, .stops⟩ (Script.empty.handler.failingAfter 2 "no")
      (GameState.empty.setRound ⟨5, 0⟩) (0, .all)).result = .error (.handler "no") ∧
    (pairLoop.resolve ⟨.default, none, .stops⟩ (Script.empty.handler.failingAfter 2 "no")
      (GameState.empty.setRound ⟨5, 0⟩) (0, .all)).calls.length = 3 := by
  have hlong : 2 < (pairLoop.resolve ⟨.default, none, .stops⟩ Script.empty.handler
      (GameState.empty.setRound ⟨5, 0⟩) .all).calls.length := by decide +kernel
  obtain ⟨before, call, after, -, hlength, hresult, hcalls, -⟩ :=
    (pairLoop.resolve_failingAfter ⟨.default, none, .stops⟩ Script.empty.handler 2 "no" _ _).2 hlong
  refine ⟨hlong, hresult, ?_⟩
  rw [hcalls, List.length_append, hlength, List.length_singleton]

end Effect

end CityCards
