import CityCards.Proofs.Play.Contexts
import CityCards.Proofs.Play.Counting

/-!
# Composites in composites

Where depth is not limited, it makes no difference whether effects in sequence are gathered to a
composite of their own. So wherever in a tree a composite is a member of a composite, its members
can be put in its place. All that can be seen of this is that a choice around it has other options.

Main definitions:
* `Effect.Inlined`: a composite with the members of one of its members in the place of this one.

Results:
* `Effect.resolveAt_inlined`: the two composites are resolved in the same way.
* `Effect.resolve_composites`: composites one after the other, and composites in composites.
-/

namespace CityCards

open Resolve

namespace Effect

/-- The second composite has, in the place of a member of the first, the members of this member. -/
inductive Inlined : Effect → Effect → Prop where
  | intro (before members after : List Effect) (d d' : Option String) (m m' : Marks) :
    Inlined (.composite (before ++ .composite members d' m' :: after) d m)
      (.composite (before ++ members ++ after) d m)

variable {σ : Type}

theorem resolveAt_inlined (r : Rules) (h : Handler σ) {e e' : Effect} (he : Inlined e e')
    (depth : Nat) : resolveAt (r.limited 0) h depth e = resolveAt (r.limited 0) h depth e' := by
  obtain ⟨before, members, after, d, d', m, m'⟩ := he
  have hmember : resolveAt (r.limited 0) h (depth + 1) (.composite members d' m') =
      inOrder (resolveEach (r.limited 0) h (depth + 1) members) := by
    rw [resolveAt, checkDepth_unlimited, pure_bind,
      resolveEach_unlimited r h (depth + 1 + 1) (depth + 1)]
  calc
    resolveAt (r.limited 0) h depth (.composite (before ++ .composite members d' m' :: after) d m)
      = (do
          inOrder (resolveEach (r.limited 0) h (depth + 1) before)
          inOrder (resolveEach (r.limited 0) h (depth + 1) members)
          inOrder (resolveEach (r.limited 0) h (depth + 1) after)) := by
        rw [resolveAt, checkDepth_unlimited, pure_bind, resolveEach_eq, List.map_append,
          List.map_cons, inOrder_append, inOrder, hmember, resolveEach_eq, resolveEach_eq,
          resolveEach_eq]
    _ = resolveAt (r.limited 0) h depth (.composite (before ++ members ++ after) d m) := by
        rw [resolveAt, checkDepth_unlimited, pure_bind, resolveEach_eq, resolveEach_eq,
          resolveEach_eq, resolveEach_eq, List.map_append, List.map_append, inOrder_append,
          inOrder_append, bind_assoc]

/-- To resolve a composite is to resolve its first members, and if that has not failed, to go on
with the others from the states that they have left; the account is that of both. The program may be
stopped because something is counted too often in both together, and then they come to no report
either. Without a limit of depth, and with a handler that does not look into the options of a
choice, it makes no difference if somewhere in a tree the members of a composite are put in its
place among the members of another. -/
theorem resolve_composites (r : Rules) (h : Handler σ) (g : GameState) (s : σ) :
    (∀ (xs ys : List Effect) (d d' d'' : Option String) (m m' m'' : Marks),
      Resolution.InOneGo r.overflow ((composite (xs ++ ys) d m).resolve r h g s)
        (((composite xs d' m').resolve r h g s).andThen r.overflow fun g s =>
          (composite ys d'' m'').resolve r h g s)) ∧
    (h.AnswersQuestions → ∀ e e', InContext Inlined e e' →
      (e.resolve (r.limited 0) h g s).Matches (e'.resolve (r.limited 0) h g s)) := by
  refine ⟨composite_append r h g s, fun hh e e' he => ?_⟩
  have hnodes : ∀ n n', Inlined n n' → ∀ depth,
      Matching Unit (resolveAt (r.limited 0) h depth n) (resolveAt (r.limited 0) h depth n') := by
    intro n n' hn depth
    rw [resolveAt_inlined r h hn depth]
    exact (additive_resolveAt (r.limited 0) h depth n').matching
  exact Resolution.matches_of_matching (matching_inContext hh hnodes he 0) (.start g s)

/-- A choice whose first option is a composite with a composite in it. -/
def nestedOption : Effect :=
  .oneOf "¿Curar o descansar?"
    [.sequence [.plain .heal "Cura", .sequence [.plain .treat "Trata", .plain .heal "Cura"],
      .plain .treat "Trata"], .plain .changeStress "Descansa"]

/-- The same choice, where the four effects of the first option are in one composite. -/
def flatOption : Effect :=
  .oneOf "¿Curar o descansar?"
    [.sequence [.plain .heal "Cura", .plain .treat "Trata", .plain .heal "Cura",
      .plain .treat "Trata"], .plain .changeStress "Descansa"]

/-- Who answers with the first option gets four effects either way. -/
theorem resolve_composites_inOption :
    Script.empty.handler.AnswersQuestions ∧ InContext Inlined nestedOption flatOption ∧
    (nestedOption.resolve (Rules.limited ⟨.default, none, .stops⟩ 0) Script.empty.handler .empty
      (.listed [[0]])).Matches
      (flatOption.resolve (Rules.limited ⟨.default, none, .stops⟩ 0) Script.empty.handler .empty
        (.listed [[0]])) ∧
    (nestedOption.resolve (Rules.limited ⟨.default, none, .stops⟩ 0) Script.empty.handler .empty
      (.listed [[0]])).result = .ok ⟨4, 1, 0, []⟩ := by
  have hanswers := Script.empty.answersQuestions_handler
  have hinlined : InContext Inlined nestedOption flatOption :=
    .option _ _ _ [] [.plain .changeStress "Descansa"] _ (.here (.intro [.plain .heal "Cura"]
      [.plain .treat "Trata", .plain .heal "Cura"] [.plain .treat "Trata"] none none .none .none))
  refine ⟨hanswers, hinlined, ?_, by decide +kernel⟩
  exact (resolve_composites ⟨.default, none, .stops⟩ Script.empty.handler .empty
    (.listed [[0]])).2 hanswers _ _ hinlined

/-- Each of two loops comes to a report. One after the other they come to none if the program stops
where there are more bodies than a word can say, and otherwise to a report that has not counted a
single one. -/
theorem resolve_composites_overflow :
    ((sequence [idleChildren]).resolve ⟨.default, none, .stops⟩ Script.empty.handler crowdedCity
      .all).result = .ok ⟨0, 0, 1, []⟩ ∧
    ((sequence [idleWorkers]).resolve ⟨.default, none, .stops⟩ Script.empty.handler crowdedCity
      .all).result = .ok ⟨0, 0, 4294967295, []⟩ ∧
    ((sequence ([idleChildren] ++ [idleWorkers])).resolve ⟨.default, none, .stops⟩
      Script.empty.handler crowdedCity .all).result = .error .overflow ∧
    ((sequence ([idleChildren] ++ [idleWorkers])).resolve ⟨.default, none, .wraps⟩
      Script.empty.handler crowdedCity .all).result = .ok ⟨0, 0, 0, []⟩ := by
  obtain ⟨hchildren, hworkers, hstopped⟩ := resolve_idleLoops .stops Script.empty.handler .all
  obtain ⟨-, -, hwrapped⟩ := resolve_idleLoops .wraps Script.empty.handler .all
  exact ⟨hchildren, hworkers, hstopped, hwrapped⟩

end Effect

end CityCards
