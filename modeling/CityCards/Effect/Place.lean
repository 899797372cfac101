import CityCards.Effect.Tree
import CityCards.Json.Path

/-!
# Places in effect trees

A place is the way from the root of a tree to one of its nodes. Every segment of it has a path,
which leads from the JSON of a node to the JSON of its child.

Results:
* `Place.path_cons`: the path of a place is that of its segments, one after the other.
* `Effect.labelled_map_snd`: the labels stand at the children, in their order.
* `Effect.nodes_map_snd`: the nodes with their places are those that a walk visits.
-/

namespace CityCards

/-- Where a child stands below its parent. -/
inductive Segment where
  | ifTrue
  | ifFalse
  | branch (i : Nat)
  | default
  | option (i : Nat)
  | body
  | member (i : Nat)
  deriving DecidableEq, Repr

/-- The way from the root of a tree to a node. -/
abbrev Place := List Segment

namespace Segment

/-- The path from the JSON of a node to that of its child. -/
def path : Segment → Json.Path
  | .ifTrue => [.member "ifTrue"]
  | .ifFalse => [.member "ifFalse"]
  | .branch i => [.member "branches", .item i, .member "effect"]
  | .default => [.member "default"]
  | .option i => [.member "options", .item i]
  | .body => [.member "effect"]
  | .member i => [.member "effects", .item i]

end Segment

/-- The path from the JSON of a tree to that of the node at a place. -/
def Place.path (p : Place) : Json.Path := p.flatMap Segment.path

theorem Place.path_cons (s : Segment) (p : Place) : path (s :: p) = s.path ++ path p := rfl

namespace Effect

/-- Model of `labelled_children`. The children of the root, each with the segment that leads to
it. -/
def labelled : Effect → List (Segment × Effect)
  | .basic _ => []
  | .conditional _ t f _ => (.ifTrue, t) :: f.toList.map fun e => (.ifFalse, e)
  | .multi bs d _ =>
    bs.mapIdx (fun i b => (.branch i, b.2)) ++ d.toList.map fun e => (.default, e)
  | .choice _ _ _ os _ => os.mapIdx fun i e => (.option i, e)
  | .forEach _ b _ _ => [(.body, b)]
  | .composite es _ _ => es.mapIdx fun i e => (.member i, e)

mutual

/-- All nodes of a tree that stands at a place, with their places, parents before children. -/
def nodesAt (p : Place) : Effect → List (Place × Effect)
  | .basic b => [(p, .basic b)]
  | .conditional c t f m =>
    (p, .conditional c t f m) :: (nodesAt (p ++ [.ifTrue]) t ++ optionNodesAt (p ++ [.ifFalse]) f)
  | .multi bs d m =>
    (p, .multi bs d m) :: (branchNodesAt p 0 bs ++ optionNodesAt (p ++ [.default]) d)
  | .choice d lo hi os m => (p, .choice d lo hi os m) :: listNodesAt p .option 0 os
  | .forEach t b d m => (p, .forEach t b d m) :: nodesAt (p ++ [.body]) b
  | .composite es d m => (p, .composite es d m) :: listNodesAt p .member 0 es
termination_by structural e => e

/-- The nodes of a tree that may be missing. -/
def optionNodesAt (p : Place) : Option Effect → List (Place × Effect)
  | none => []
  | some e => nodesAt p e
termination_by structural o => o

/-- The nodes of trees that stand below a place, numbered from `i` on. -/
def listNodesAt (p : Place) (label : Nat → Segment) (i : Nat) : List Effect → List (Place × Effect)
  | [] => []
  | e :: rest => nodesAt (p ++ [label i]) e ++ listNodesAt p label (i + 1) rest
termination_by structural es => es

/-- The nodes of the trees in branches, numbered from `i` on. -/
def branchNodesAt (p : Place) (i : Nat) : List (Condition × Effect) → List (Place × Effect)
  | [] => []
  | (_, e) :: rest => nodesAt (p ++ [.branch i]) e ++ branchNodesAt p (i + 1) rest
termination_by structural bs => bs

end

/-- All nodes of a tree with their places, parents before children. -/
def nodes (e : Effect) : List (Place × Effect) := e.nodesAt []

theorem map_snd_mapIdx {α : Type} (label : Nat → Segment) (f : α → Effect) (l : List α) :
    (l.mapIdx fun i a => (label i, f a)).map Prod.snd = l.map f := by
  apply List.ext_getElem <;> simp

theorem labelled_map_snd (e : Effect) : e.labelled.map Prod.snd = e.children := by
  cases e with
  | basic b => rfl
  | conditional c t f m => cases f <;> rfl
  | multi bs d m =>
    rw [labelled, children, List.map_append, map_snd_mapIdx .branch Prod.snd bs]
    cases d <;> rfl
  | choice d lo hi os m => simpa [labelled, children] using map_snd_mapIdx .option id os
  | forEach t b d m => rfl
  | composite es d m => simpa [labelled, children] using map_snd_mapIdx .member id es

mutual

theorem nodesAt_map_snd (p : Place) (e : Effect) : (e.nodesAt p).map Prod.snd = e.walk := by
  cases e with
  | basic b => simp [nodesAt, walk]
  | conditional c t f m =>
    simp [nodesAt, walk, nodesAt_map_snd _ t, optionNodesAt_map_snd _ f]
  | multi bs d m =>
    simp [nodesAt, walk, branchNodesAt_map_snd p 0 bs, optionNodesAt_map_snd _ d]
  | choice d lo hi os m => simp [nodesAt, walk, listNodesAt_map_snd p .option 0 os]
  | forEach t b d m => simp [nodesAt, walk, nodesAt_map_snd _ b]
  | composite es d m => simp [nodesAt, walk, listNodesAt_map_snd p .member 0 es]

theorem optionNodesAt_map_snd (p : Place) (o : Option Effect) :
    (optionNodesAt p o).map Prod.snd = walkOption o := by
  cases o with
  | none => simp [optionNodesAt, walkOption]
  | some e => simp [optionNodesAt, walkOption, nodesAt_map_snd p e]

theorem listNodesAt_map_snd (p : Place) (label : Nat → Segment) (i : Nat) (es : List Effect) :
    (listNodesAt p label i es).map Prod.snd = walkList es := by
  cases es with
  | nil => simp [listNodesAt, walkList]
  | cons e rest =>
    simp [listNodesAt, walkList, nodesAt_map_snd _ e, listNodesAt_map_snd p label (i + 1) rest]

theorem branchNodesAt_map_snd (p : Place) (i : Nat) (bs : List (Condition × Effect)) :
    (branchNodesAt p i bs).map Prod.snd = walkBranches bs := by
  cases bs with
  | nil => simp [branchNodesAt, walkBranches]
  | cons b rest =>
    obtain ⟨c, e⟩ := b
    simp [branchNodesAt, walkBranches, nodesAt_map_snd _ e, branchNodesAt_map_snd p (i + 1) rest]

end

theorem nodes_map_snd (e : Effect) : e.nodes.map Prod.snd = e.walk := nodesAt_map_snd [] e

theorem snd_mem_walk {e : Effect} {x : Place × Effect} (hx : x ∈ e.nodes) : x.2 ∈ e.walk := by
  rw [← nodes_map_snd]
  exact List.mem_map_of_mem hx

end Effect

end CityCards
