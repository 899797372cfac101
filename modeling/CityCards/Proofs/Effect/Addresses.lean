import CityCards.Proofs.Effect.Exactness
import CityCards.Proofs.Effect.Places
import CityCards.Proofs.Json.PathText

/-!
# Paths of faults are addresses

The path of a fault is followed in the JSON of the tree, member by member and item by item. It leads
to the JSON of the part that is at fault: a node, or a condition of a node. Parts of a tree have
different paths, and these have different texts, since the segments of places go different ways and
none of their names has a point or a bracket in it.

Main definitions:
* `Part`: a node or a condition of a tree.
* `Effect.part?`: the part of a node that may be at fault.

Results:
* `Effect.at?_toJson_part`: the path of a part leads to its JSON.
* `Spot.path_injective`: parts at different places have different paths.
* `Effect.violations_addressed`: what that means for the faults of a tree.
-/

namespace CityCards

open Json (Path)

/-! ## Parts of a tree -/

/-- A node or a condition of a tree. -/
inductive Part where
  | node (e : Effect)
  | condition (c : Condition)

/-- The part as JSON. -/
def Part.toJson : Part → Json
  | .node e => e.toJson
  | .condition c => c.toJson

namespace Effect

/-- The part of the root that may be at fault. -/
def part? : Effect → Spot → Option Part
  | e, .node => some (.node e)
  | .conditional c _ _ _, .condition => some (.condition c)
  | .multi bs _ _, .branchCondition i => bs[i]?.map fun b => .condition b.1
  | _, _ => none

/-- What breaks a rule is a part of the node. -/
theorem exists_part_of_breaks {e : Effect} {s : Spot} {f : Flaw} (h : e.Breaks s f) :
    ∃ part, e.part? s = some part := by
  cases h with
  | branchCondition hb _ => exact ⟨_, by rw [part?, hb, Option.map_some]⟩
  | _ => exact ⟨_, rfl⟩

/-! ## Paths in JSON -/

theorem at?_toJson_spot (e : Effect) (s : Spot) :
    e.toJson.at? s.path = (e.part? s).map Part.toJson := by
  cases s with
  | node => rfl
  | condition =>
    rw [toJson_eq]
    cases e <;> simp [members, part?, Spot.path, Json.at?_obj_member, Json.find?, Json.at?_nil,
      Part.toJson]
  | branchCondition i =>
    have hbranch (b : Condition × Effect) :
        (branchJson b).at? [.member "condition"] = some b.1.toJson := rfl
    rw [toJson_eq]
    cases e with
    | multi bs d m =>
      cases hb : bs[i]? <;>
        simp [members, part?, Spot.path, Json.at?_obj_member, Json.find?, Json.at?_arr_item, hb,
          hbranch, Part.toJson]
    | _ => simp [members, part?, Spot.path, Json.at?_obj_member, Json.find?]

/-- The path of a part leads to what the part is written as. -/
theorem at?_toJson_part (e : Effect) (p : Place) (s : Spot) :
    e.toJson.at? (p.path ++ s.path) =
      (e.at? p).bind fun n => (n.part? s).map Part.toJson := by
  rw [Json.at?_append, at?_toJson, Option.bind_map]
  exact congrArg (e.at? p).bind (funext fun n => n.at?_toJson_spot s)

end Effect

/-! ## Different paths -/

theorem Json.Path.Apart.append_ne {p q : Path} (h : p.Apart q) (x y : Path) :
    p ++ x ≠ q ++ y := by
  induction p generalizing q with
  | nil => exact h.elim
  | cons s p ih =>
    cases q with
    | nil => exact h.elim
    | cons t q =>
      rw [List.cons_append, List.cons_append]
      intro heq
      obtain ⟨hst, hrest⟩ := List.cons.inj heq
      rcases h with hne | hapart
      · exact hne hst
      · exact ih hapart hrest

/-- The path to a condition of a node does not lead through a child of the node. -/
theorem Spot.path_ne_segment (s : Spot) (t : Segment) (x : Path) : s.path ≠ t.path ++ x := by
  cases s <;> cases t <;> simp [path, Segment.path]

theorem Spot.path_ne_place (s s' : Spot) (t : Segment) (p : Place) :
    s.path ≠ Place.path (t :: p) ++ s'.path := by
  rw [Place.path_cons, List.append_assoc]
  exact s.path_ne_segment t _

/-- Parts at different places, and different parts of one node, have different paths. -/
theorem Spot.path_injective {p p' : Place} {s s' : Spot}
    (h : p.path ++ s.path = p'.path ++ s'.path) : p = p' ∧ s = s' := by
  induction p generalizing p' with
  | nil =>
    cases p' with
    | nil =>
      refine ⟨rfl, ?_⟩
      cases s <;> cases s' <;> simp_all [path, Place.path]
    | cons t' rest' => exact absurd h (path_ne_place s s' t' rest')
  | cons t rest ih =>
    cases p' with
    | nil => exact absurd h.symm (path_ne_place s' s t rest)
    | cons t' rest' =>
      rw [Place.path_cons, Place.path_cons, List.append_assoc, List.append_assoc] at h
      by_cases ht : t = t'
      · subst ht
        obtain ⟨rfl, rfl⟩ := ih (List.append_cancel_left h)
        exact ⟨rfl, rfl⟩
      · exact absurd h ((Segment.apart_path ht).append_ne _ _)

/-! ## Texts of paths -/

theorem Segment.isPlain_path (s : Segment) : s.path.IsPlain := by
  cases s <;> simp [path, Path.IsPlain, Path.IsPlainName]

theorem Spot.isPlain_path (s : Spot) : s.path.IsPlain := by
  cases s <;> simp [path, Path.IsPlain, Path.IsPlainName]

theorem Place.isPlain_path (p : Place) : p.path.IsPlain := by
  induction p with
  | nil => simp [path, Path.IsPlain]
  | cons s rest ih => exact Path.isPlain_append.mpr ⟨s.isPlain_path, ih⟩

theorem ofText?_text_part (p : Place) (s : Spot) :
    Path.ofText? (Path.text (p.path ++ s.path)) = some (p.path ++ s.path) :=
  Path.ofText?_text (Path.isPlain_append.mpr ⟨p.isPlain_path, s.isPlain_path⟩)

/-! ## Faults -/

theorem Effect.exists_breaks_of_mem_violations {e : Effect} {v : Violation}
    (h : v ∈ e.violations) : ∃ n, e.at? v.place = some n ∧ n.Breaks v.spot v.flaw := by
  rw [e.violations_eq] at h
  obtain ⟨⟨p, n⟩, hn, hv⟩ := List.mem_flatMap.mp h
  obtain ⟨hplace, hbreaks⟩ := ((found_violationsAt (p, n)).2 v).mp hv
  exact ⟨n, hplace ▸ mem_nodes_iff.mp hn, hbreaks⟩

/-- The text of the path of a fault is read as member names and indices. Followed in the JSON of the
tree, these lead to the JSON of the part at fault, which is a part of the node that breaks the rule.
The empty text is that of the root, and no two parts have paths with the same text. -/
theorem Effect.violations_addressed (e : Effect) :
    (∀ v ∈ e.violations, ∃ n part path, e.at? v.place = some n ∧ n.Breaks v.spot v.flaw ∧
      n.part? v.spot = some part ∧ Path.ofText? v.path.text = some path ∧
      e.toJson.at? path = some part.toJson) ∧
    (∀ v ∈ e.violations, v.path.text = "" ↔ v.place = [] ∧ v.spot = .node) ∧
    ∀ (p p' : Place) (s s' : Spot),
      Path.text (p.path ++ s.path) = Path.text (p'.path ++ s'.path) → p = p' ∧ s = s' := by
  have hinjective (p p' : Place) (s s' : Spot)
      (h : Path.text (p.path ++ s.path) = Path.text (p'.path ++ s'.path)) : p = p' ∧ s = s' := by
    have hread := ofText?_text_part p s
    rw [h, ofText?_text_part p' s'] at hread
    exact Spot.path_injective (Option.some.inj hread).symm
  refine ⟨fun v hv => ?_, fun v _ => ?_, hinjective⟩
  · obtain ⟨n, hn, hbreaks⟩ := exists_breaks_of_mem_violations hv
    obtain ⟨part, hpart⟩ := exists_part_of_breaks hbreaks
    refine ⟨n, part, v.path, hn, hbreaks, hpart, ofText?_text_part v.place v.spot, ?_⟩
    rw [Violation.path, at?_toJson_part, hn, Option.bind_some, hpart, Option.map_some]
  · constructor
    · exact hinjective v.place [] v.spot .node
    · rintro ⟨hplace, hspot⟩
      rw [Violation.path, hplace, hspot]
      rfl

end CityCards
