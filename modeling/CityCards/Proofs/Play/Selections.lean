import CityCards.Proofs.Play.Sequences

/-!
# Choices are all or nothing

The answer to a choice is a list of indices, of any length and in any order. If options stand at all
of them, then the chosen options are resolved like the members of a composite, in the order in which
they were chosen and as often as they were. If there is an index without an option, then the first
such index is the error, and no option is resolved, not even one that was chosen before it.

Main definitions:
* `Choice.chosen`: the options at the indices of an answer.
* `Resolution.choosing`: a resolution that only makes a choice.

Results:
* `Resolve.select_of_within`, `Resolve.select_of_outside`: what is selected by indices.
* `Effect.exec_choice_within`, `Effect.exec_choice_outside`: a choice anywhere in a tree.
* `Effect.resolve_choice_allOrNothing`: what that means for whole resolutions.
-/

namespace CityCards

variable {σ : Type}

/-! ## Selecting -/

/-- The options at the indices, in this order and as often. -/
def Choice.chosen (c : Choice) (is : List Nat) (h : ∀ i ∈ is, i < c.options.length) :
    List Effect :=
  is.pmap (fun i hi => c.options[i]) h

namespace Resolve

variable {α : Type}

theorem select_of_within (as : List α) {is : List Nat} (h : ∀ i ∈ is, i < as.length) :
    select as is = .ok (is.pmap (fun i hi => as[i]) h) := by
  induction is with
  | nil => rfl
  | cons i rest ih =>
    obtain ⟨hi, hrest⟩ := List.forall_mem_cons.mp h
    rw [select, List.getElem?_eq_getElem hi, ih hrest]
    rfl

theorem select_of_outside (as : List α) {is : List Nat} {i : Nat}
    (h : is.find? (as.length ≤ ·) = some i) :
    select as is = .error (.choiceOutOfRange i as.length) := by
  induction is with
  | nil => cases h
  | cons k rest ih =>
    by_cases hk : as.length ≤ k
    · rw [List.find?_cons_of_pos (by simpa using hk)] at h
      cases h
      rw [select, List.getElem?_eq_none hk]
    · rw [List.find?_cons_of_neg (by simpa using hk)] at h
      rw [select, List.getElem?_eq_getElem (Nat.lt_of_not_le hk), ih h]
      rfl

end Resolve

/-! ## A choice in a tree -/

/-- The run after a choice that was answered with the indices, and that was counted. -/
def Run.choosing (run : Run σ) (c : Choice) (is : List Nat) (s : σ) : Run σ :=
  { run with
    player := s
    report := { run.report with choicesMade := run.report.choicesMade + 1 }
    calls := run.calls ++ [.asked c (.ok is)] }

/-- The resolution that only makes a choice, which is answered with the indices. -/
def Resolution.choosing (c : Choice) (is : List Nat) (g : GameState) (s : σ) : Resolution σ :=
  ⟨.ok { Report.empty with choicesMade := 1 }, g, s, [.asked c (.ok is)]⟩

open Resolve

/-- From the beginning, to go on after a choice is to go on from the states that it has left, unless
the program is stopped because there are too many choices on the whole. -/
theorem Resolution.inOneGo_choosing {o : Overflow} {m : Resolve σ Unit} (hm : Additive o m)
    (c : Choice) (is : List Nat) (g : GameState) (s s' : σ) :
    InOneGo o (ofOutcome (exec m ((Run.start g s).choosing c is s')))
      ((choosing c is g s').andThen o fun g s => .ofOutcome (exec m (.start g s))) := by
  have hfollowing : (Run.start g s).choosing c is s' =
      (Run.start g s').following .chosen [.asked c (.ok is)] := by
    simp [Run.choosing, Run.start, Run.following]
    rfl
  rw [hfollowing]
  exact inOneGo_following hm g s' .chosen [.asked c (.ok is)]

namespace Effect

variable {r : Rules} {h : Handler σ} {c : Choice} {is : List Nat} {s' : σ}

/-- Within the limit of depth, and if it can be counted, the choice is made, and the options are
selected all at once. -/
theorem exec_choice {depth : Nat} {run : Run σ} (hdepth : r.config.allowsDepth depth = true)
    (hcount : ¬run.report.Overflows r.overflow .chosen)
    (hanswer : h.makeChoice c run.player = (.ok is, s')) :
    exec (resolveAt r h depth c.toEffect) run =
      match select (resolveEach r h (depth + 1) c.options) is with
      | .ok ms => exec (inOrder ms) (run.choosing c is s')
      | .error e => (.error e, run.choosing c is s') := by
  have hmake : exec (makeChoice h c) run =
      (.ok is, { run with player := s', calls := run.calls ++ [.asked c (.ok is)] }) := by
    rw [exec_makeChoice, hanswer]
  have hcounted : exec (count r .chosen)
      { run with player := s', calls := run.calls ++ [.asked c (.ok is)] } =
        (.ok (), run.choosing c is s') := by
    rw [exec_count, if_neg hcount]
    simp [Run.choosing, Report.add, Report.chosen, Report.empty]
  rw [Choice.toEffect, resolveAt, exec_bind, exec_checkDepth, if_pos hdepth]
  show exec (makeChoice h c >>= _) run = _
  rw [exec_bind, hmake]
  dsimp only
  rw [exec_bind, hcounted]
  dsimp only
  cases select (resolveEach r h (depth + 1) c.options) is <;> rfl

/-- A choice whose answer keeps to the options is resolved as the composite of those that were
chosen, after it is made. -/
theorem exec_choice_within {depth : Nat} {run : Run σ} (hdepth : r.config.allowsDepth depth = true)
    (hcount : ¬run.report.Overflows r.overflow .chosen)
    (hanswer : h.makeChoice c run.player = (.ok is, s'))
    (hwithin : ∀ i ∈ is, i < c.options.length) (d : Option String) (m : Marks) :
    exec (resolveAt r h depth c.toEffect) run =
      exec (resolveAt r h depth (.composite (c.chosen is hwithin) d m)) (run.choosing c is s') := by
  have hselect : select (resolveEach r h (depth + 1) c.options) is =
      .ok (resolveEach r h (depth + 1) (c.chosen is hwithin)) := by
    rw [resolveEach_eq, resolveEach_eq, select_map, select_of_within c.options hwithin]
    rfl
  rw [exec_choice hdepth hcount hanswer, hselect, resolveAt, exec_bind, exec_checkDepth,
    if_pos hdepth]

/-- A choice whose answer goes beyond the options is made, and then it fails. -/
theorem exec_choice_outside {depth : Nat} {run : Run σ}
    (hdepth : r.config.allowsDepth depth = true)
    (hcount : ¬run.report.Overflows r.overflow .chosen)
    (hanswer : h.makeChoice c run.player = (.ok is, s')) {i : Nat}
    (houtside : is.find? (c.options.length ≤ ·) = some i) :
    exec (resolveAt r h depth c.toEffect) run =
      (.error (.choiceOutOfRange i c.options.length), run.choosing c is s') := by
  rw [exec_choice hdepth hcount hanswer, resolveEach_eq, select_map, select_of_outside _ houtside]
  rfl

/-! ## Whole resolutions -/

variable (r : Rules) (h : Handler σ) (g : GameState) (s : σ)

/-- Let the handler answer a choice with some indices. If all of them are within the options, then
to resolve the choice is to make it, and after it to resolve the composite of the chosen options,
unless the program is stopped because there are too many choices on the whole. Otherwise it fails at
the first index that is not; nothing follows the choice, and the state of the city is as before. The
same holds wherever in a tree the choice stands, after whatever has been done before, as long as its
depth is within the limit, as that of the root always is, and as long as the choice can be
counted. -/
theorem resolve_choice_allOrNothing (c : Choice) {is : List Nat} {s' : σ}
    (hanswer : h.makeChoice c s = (.ok is, s')) :
    (∀ hwithin : ∀ i ∈ is, i < c.options.length, ∀ d m,
      Resolution.InOneGo r.overflow (c.toEffect.resolve r h g s)
        ((Resolution.choosing c is g s').andThen r.overflow fun g s =>
          (composite (c.chosen is hwithin) d m).resolve r h g s)) ∧
    (∀ i, is.find? (c.options.length ≤ ·) = some i →
      c.toEffect.resolve r h g s =
        ⟨.error (.choiceOutOfRange i c.options.length), g, s', [.asked c (.ok is)]⟩) ∧
    ∀ (depth : Nat) (run : Run σ), r.config.allowsDepth depth = true →
      ¬run.report.Overflows r.overflow .chosen → run.player = s →
      (∀ hwithin : ∀ i ∈ is, i < c.options.length, ∀ d m,
        exec (resolveAt r h depth c.toEffect) run =
          exec (resolveAt r h depth (.composite (c.chosen is hwithin) d m))
            (run.choosing c is s')) ∧
      ∀ i, is.find? (c.options.length ≤ ·) = some i →
        exec (resolveAt r h depth c.toEffect) run =
          (.error (.choiceOutOfRange i c.options.length), run.choosing c is s') := by
  have hroot : r.config.allowsDepth 0 = true := r.config.allowsDepth_zero
  have hfirst : ¬(Run.start g s).report.Overflows r.overflow .chosen :=
    Report.not_empty_overflows r.overflow .chosen
  refine ⟨fun hwithin d m => ?_, fun i houtside => ?_, ?_⟩
  · simp only [resolve_eq]
    rw [exec_choice_within hroot hfirst hanswer hwithin d m]
    exact Resolution.inOneGo_choosing (additive_resolveAt r h 0 _) c is g s s'
  · rw [resolve_eq, exec_choice_outside hroot hfirst hanswer houtside]
    rfl
  · rintro depth run hdepth hcount rfl
    exact ⟨exec_choice_within hdepth hcount hanswer,
      fun i => exec_choice_outside hdepth hcount hanswer⟩

/-- Two of two options, of which the second is a choice again. -/
def twice : Choice where
  description := "Elige dos"
  least := 2
  most := 2
  options := [.plain .heal "Cura", .oneOf "¿Qué?" [.plain .treat "Trata", .plain .heal "Cura"]]
  marks := .none

/-- The second option is chosen twice, before and after the first, and is answered differently. With
an answer that goes beyond the options, the option that is chosen before is not resolved. -/
theorem resolve_choice_twice :
    Script.empty.handler.makeChoice twice (.listed [[1, 0, 1], [1], [0]]) =
      (.ok [1, 0, 1], .listed [[1], [0]]) ∧
    twice.toEffect.resolve ⟨.default, none, .stops⟩ Script.empty.handler .empty
        (.listed [[1, 0, 1], [1], [0]]) =
      (Resolution.choosing twice [1, 0, 1] .empty (.listed [[1], [0]])).andThen .stops
        ((sequence [.oneOf "¿Qué?" [.plain .treat "Trata", .plain .heal "Cura"],
          .plain .heal "Cura",
          .oneOf "¿Qué?" [.plain .treat "Trata", .plain .heal "Cura"]]).resolve
            ⟨.default, none, .stops⟩ Script.empty.handler) ∧
    (twice.toEffect.resolve ⟨.default, none, .stops⟩ Script.empty.handler .empty
      (.listed [[1, 0, 1], [1], [0]])).result = .ok ⟨3, 3, 0, []⟩ ∧
    Script.empty.handler.makeChoice twice (.listed [[0, 5, 7], [1]]) =
      (.ok [0, 5, 7], .listed [[1]]) ∧
    twice.toEffect.resolve ⟨.default, none, .stops⟩ Script.empty.handler .empty
        (.listed [[0, 5, 7], [1]]) =
      ⟨.error (.choiceOutOfRange 5 2), .empty, .listed [[1]], [.asked twice (.ok [0, 5, 7])]⟩ := by
  have hwithin : Script.empty.handler.makeChoice twice (.listed [[1, 0, 1], [1], [0]]) =
      (.ok [1, 0, 1], .listed [[1], [0]]) := rfl
  have houtside : Script.empty.handler.makeChoice twice (.listed [[0, 5, 7], [1]]) =
      (.ok [0, 5, 7], .listed [[1]]) := rfl
  have hreport : (twice.toEffect.resolve ⟨.default, none, .stops⟩ Script.empty.handler .empty
      (.listed [[1, 0, 1], [1], [0]])).result = .ok ⟨3, 3, 0, []⟩ := by decide +kernel
  refine ⟨hwithin, ?_, hreport, houtside, ?_⟩
  · exact ((resolve_choice_allOrNothing ⟨.default, none, .stops⟩ Script.empty.handler .empty
      (.listed [[1, 0, 1], [1], [0]]) twice hwithin).1 (by decide) none .none).eq_of_ok hreport
  · exact (resolve_choice_allOrNothing ⟨.default, none, .stops⟩ Script.empty.handler .empty
      (.listed [[0, 5, 7], [1]]) twice houtside).2.1 5 (by decide)

end Effect

end CityCards
