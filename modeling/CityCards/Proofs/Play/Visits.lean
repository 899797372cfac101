import CityCards.Proofs.Effect.Places
import CityCards.Proofs.Play.Beside

/-!
# The nodes visited

A resolution is watched, and for every node that it visits there is kept where the node stands and
what state the city is in at the visit. A node that stands too deep is not visited. From the visits
it can be told what was asked and counted there, since a condition or a target sees the state at the
visit of its node.

Main definitions:
* `Visit`, `Effect.visits`: the visits of a resolution, in order.
* `Effect.leaves`: the basic effects of a tree with their places.
* `Visit.asked`, `Visit.count?`: the conditions that are asked at a visit, and what is counted.

Results:
* `Effect.alone_visited`: the resolution that keeps its visits is the resolution.
* `Effect.mem_nodes_of_mem_visits`: what is visited is a node of the tree, where it stands.
* `Effect.leaves_map_snd`: the leaves are the basic effects that a walk comes to.
-/

namespace CityCards

/-! ## Leaves -/

namespace Effect

/-- The basic effect, if the tree is nothing but that. -/
def basic? : Effect → Option Basic
  | .basic b => some b
  | _ => none

/-- The basic effects among nodes, with their places. -/
def leavesOf (ns : List (Place × Effect)) : List (Place × Basic) :=
  ns.filterMap fun x => x.2.basic?.map fun b => (x.1, b)

/-- The basic effects of a tree with their places, in the order of a walk. -/
def leaves (e : Effect) : List (Place × Basic) := leavesOf e.nodes

theorem leavesOf_append (ns ns' : List (Place × Effect)) :
    leavesOf (ns ++ ns') = leavesOf ns ++ leavesOf ns' := List.filterMap_append

theorem leavesOf_map_snd (ns : List (Place × Effect)) :
    (leavesOf ns).map Prod.snd = (ns.map Prod.snd).filterMap basic? := by
  rw [leavesOf, List.map_filterMap, List.filterMap_map]
  simp only [Option.map_map, Function.comp_def, Option.map_id']

theorem leavesOf_listNodesAt (p : Place) (label : Nat → Segment) (i : Nat) (es : List Effect) :
    leavesOf (listNodesAt p label i es) =
      (List.finRange es.length).flatMap fun k : Fin es.length =>
        leavesOf ((es.get k).nodesAt (p ++ [label (i + k.val)])) := by
  induction es generalizing i with
  | nil => rfl
  | cons e rest ih =>
    rw [listNodesAt, leavesOf_append, ih]
    simp only [Nat.add_assoc, Nat.add_comm 1, List.get_eq_getElem, List.length_cons,
      List.finRange_succ, List.flatMap_cons, Fin.val_zero, Nat.add_zero, List.getElem_cons_zero,
      List.flatMap_map, Fin.val_succ, List.getElem_cons_succ]

/-- The leaves of a tree are the basic effects that a walk through it comes to. -/
theorem leaves_map_snd (e : Effect) : e.leaves.map Prod.snd = e.walk.filterMap basic? := by
  rw [leaves, leavesOf_map_snd, nodes_map_snd]

end Effect

/-- What a target counts in a state; zero if there is no such target. -/
def Tally.countOf (target : String) (g : GameState) : Nat :=
  match parse? target with
  | some t => (t.count g).toNat
  | none => 0

/-! ## Visits -/

/-- A node where it stands in a tree, and the state of the city when a resolution comes to it. -/
structure Visit where
  place : Place
  node : Effect
  game : GameState

namespace Visit

/-- The basic effect with its place, if one is visited. -/
def leaf? (v : Visit) : Option (Place × Basic) := v.node.basic?.map fun b => (v.place, b)

/-- What is counted, if a repeated effect is visited. -/
def count? (v : Visit) : Option Nat :=
  match v.node with
  | .forEach t _ _ _ => some (Tally.countOf t v.game)
  | _ => none

/-- The conditions of the node, in order. -/
def conditions (v : Visit) : List Condition :=
  match v.node with
  | .conditional c _ _ _ => [c]
  | .multi bs _ _ => bs.map Prod.fst
  | _ => []

/-- The condition holds at the visit. -/
def Holds (custom : Option CustomEvaluator) (v : Visit) (c : Condition) : Prop :=
  (c.outcome custom v.game).value = true

instance (custom : Option CustomEvaluator) (v : Visit) (c : Condition) :
    Decidable (v.Holds custom c) :=
  inferInstanceAs (Decidable (_ = true))

/-- The conditions that are asked one after the other, up to the first that holds. -/
def askedOf (custom : Option CustomEvaluator) (v : Visit) : List Condition → List Condition
  | [] => []
  | c :: rest => c :: if v.Holds custom c then [] else askedOf custom v rest

/-- The conditions that are asked at the visit. -/
def asked (custom : Option CustomEvaluator) (v : Visit) : List Condition :=
  v.askedOf custom v.conditions

section

variable {custom : Option CustomEvaluator} {p : Place} {g : GameState}

theorem asked_conditional (c : Condition) (t : Effect) (f : Option Effect) (m : Marks) :
    asked custom ⟨p, .conditional c t f m, g⟩ = [c] := by
  rw [asked, conditions, askedOf, askedOf, ite_self]

/-- If there is only one branch, then its condition is asked. -/
theorem mem_asked_multi {bs : List (Condition × Effect)} {b : Condition × Effect}
    (hone : bs.length ≤ 1) (hb : b ∈ bs) (d : Option Effect) (m : Marks) :
    b.1 ∈ asked custom ⟨p, .multi bs d m, g⟩ := by
  obtain _ | ⟨b', _ | ⟨b'', rest⟩⟩ := bs
  · cases hb
  · obtain rfl := List.mem_singleton.mp hb
    exact List.mem_cons_self
  · simp at hone

end

end Visit

/-- The visit of the node at a place in some state, if there is one that is not too deep. -/
def Effect.visitAt? (root : Effect) (r : Rules) (p : Place) (g : GameState) : Option Visit :=
  if r.config.allowsDepth p.length then (root.at? p).map fun n => ⟨p, n, g⟩ else none

namespace Run

variable {σ : Type}

/-- The run with more visits. -/
def seeing (run : Run (List Visit × σ)) (vs : List Visit) : Run (List Visit × σ) :=
  { run with player := (run.player.1 ++ vs, run.player.2) }

theorem seeing_nil (run : Run (List Visit × σ)) : run.seeing [] = run := by
  rw [seeing, List.append_nil]

@[simp] theorem seeing_player (run : Run (List Visit × σ)) (vs : List Visit) :
    (run.seeing vs).player = (run.player.1 ++ vs, run.player.2) := rfl

@[simp] theorem seeing_game (run : Run (List Visit × σ)) (vs : List Visit) :
    (run.seeing vs).game = run.game := rfl

end Run

namespace Resolve

variable {σ α : Type}

/-- Keeps the visit of the node at a place. -/
def visit (root : Effect) (r : Rules) (p : Place) : Resolve (List Visit × σ) Unit :=
  modify fun run => run.seeing (root.visitAt? r p run.game).toList

/-- At a node that is not too deep the visit is kept and what is done there follows; otherwise the
resolution ends and there is no visit. -/
theorem exec_visit {root n : Effect} {p : Place} (hat : root.at? p = some n) (r : Rules)
    (m : Resolve (List Visit × σ) α) (run : Run (List Visit × σ)) :
    exec (do visit root r p; checkDepth r p.length; m) run =
      if r.config.allowsDepth p.length then exec m (run.seeing [⟨p, n, run.game⟩])
      else (.error (.depthExceeded r.config.maxDepth), run) := by
  rw [exec_bind, visit, exec_modify]
  dsimp only
  rw [exec_bind, exec_checkDepth, Effect.visitAt?, hat]
  cases r.config.allowsDepth p.length with
  | true => rfl
  | false => exact Prod.ext rfl run.seeing_nil

/-- All visits up to now are visits of nodes of the tree, where they stand. -/
def SeesNodes (e : Effect) (run : Run (List Visit × σ)) : Prop :=
  ∀ v ∈ run.player.1, (v.place, v.node) ∈ e.nodes

/-- The part keeps to visiting nodes of the tree, also if it fails. -/
abbrev KeepsSeeing (e : Effect) (m : Resolve (List Visit × σ) α) : Prop :=
  Keeps (SeesNodes e) (fun _ => SeesNodes e) m

theorem keepsSeeing_visit (e : Effect) (r : Rules) (p : Place) :
    KeepsSeeing (σ := σ) e (visit e r p) := by
  intro run hrun v hv
  rw [Run.seeing_player, List.mem_append] at hv
  obtain hold | hnew := hv
  · exact hrun v hold
  · rw [Option.mem_toList, Effect.visitAt?] at hnew
    split at hnew
    · obtain ⟨n, hn, rfl⟩ := Option.map_eq_some_iff.mp hnew
      exact Effect.mem_nodes_iff.mpr hn
    · cases hnew

theorem keepsSeeing_of_player {e : Effect} {m : Resolve (List Visit × σ) α}
    (hm : ∀ run, (exec m run).2.player.1 = run.player.1) : KeepsSeeing e m := by
  intro run hrun
  have hsame : SeesNodes e (exec m run).2 := by rwa [SeesNodes, hm run]
  generalize exec m run = outcome at hsame ⊢
  obtain ⟨_ | a, run'⟩ := outcome <;> exact hsame

end Resolve

/-! ## Whole resolutions -/

namespace Effect

open Resolve

variable {σ : Type} (e : Effect) (r : Rules) (h : Handler σ) (g : GameState) (s : σ)

/-- The resolution of a tree that keeps its visits, in order. -/
def visited : Resolution (List Visit × σ) :=
  .ofOutcome (exec (watchAt (visit e r) r (h.beside (List Visit)) [] e) (.start g ([], s)))

/-- The visits of the resolution of a tree, in order. -/
def visits : List Visit := (e.visited r h g s).player.1

theorem alone_visited : (e.visited r h g s).alone = e.resolve r h g s := by
  have hvisit (p : Place) : Carries (List Visit) Unit (visit (σ := σ) e r p) (pure ()) :=
    fun _ => rfl
  have hstart : Run.start g s = (Run.start g (([] : List Visit), s)).alone := rfl
  rw [resolve_eq, hstart, carries_watchAt hvisit r h e]
  rfl

/-- What is visited is a node of the tree, where it stands. -/
theorem mem_nodes_of_mem_visits {v : Visit} (hv : v ∈ e.visits r h g s) :
    (v.place, v.node) ∈ e.nodes := by
  have hbasic (b : Basic) : KeepsSeeing e (Resolve.applyBasic (h.beside (List Visit)) b) := by
    refine keepsSeeing_of_player fun run => ?_
    rw [exec_applyBasic, Handler.beside_applyBasic]
    rcases h.applyBasic b run.game run.player.2 with ⟨_ | _, game, player⟩ <;> rfl
  have hchoice (c : Choice) : KeepsSeeing e (Resolve.makeChoice (h.beside (List Visit)) c) := by
    refine keepsSeeing_of_player fun run => ?_
    rw [exec_makeChoice, Handler.beside_makeChoice]
    rcases h.makeChoice c run.player.2 with ⟨_ | _, player⟩ <;> rfl
  have hnode (x : Place × Effect) : VisitRelated (fun _ m _ => KeepsSeeing e m) r r
      (h.beside (List Visit)) (h.beside (List Visit)) x.1.length x.2 :=
    visitRelated_of_silent (sequential_keeps _ _) _ _
      (fun hm => keepsSeeing_of_player fun run => congrArg Prod.fst (hm.same run).player)
      hbasic hchoice r x.1.length x.2
  have hkeeps : KeepsSeeing e (watchAt (visit e r) r (h.beside (List Visit)) [] e) :=
    keeps_watchAt [] e fun x _ => ⟨keepsSeeing_visit e r x.1, hnode x⟩
  have hstart : SeesNodes e (.start g ([], s)) := by simp [SeesNodes, Run.start]
  exact hkeeps.exec_snd hstart v hv

end Effect

end CityCards
