import CityCards.Proofs.Effect.RoundTrip
import CityCards.Proofs.Json.Edit

/-!
# Following places

A place is followed segment by segment, in a tree and in what the tree is written as: the path of a
place leads to the JSON of the node at the place.

Main definitions:
* `Effect.child?`: the child that a segment leads to.
* `Effect.at?`: the node at a place.

Results:
* `Effect.mem_nodes_iff`: the nodes of a tree are those that are found by following places.
* `Effect.at?_toJson`: a place is followed in JSON as it is in the tree.
* `Segment.apart_path`: different segments go different ways.
-/

namespace CityCards

namespace Effect

/-- The child of the root that a segment leads to. -/
def child? : Effect → Segment → Option Effect
  | .conditional _ t _ _, .ifTrue => some t
  | .conditional _ _ f _, .ifFalse => f
  | .multi bs _ _, .branch i => bs[i]?.map Prod.snd
  | .multi _ d _, .default => d
  | .choice _ _ _ os _, .option i => os[i]?
  | .forEach _ b _ _, .body => some b
  | .composite es _ _, .member i => es[i]?
  | _, _ => none

/-- The node at a place. -/
def at? (e : Effect) : Place → Option Effect
  | [] => some e
  | s :: rest => (e.child? s).bind fun c => c.at? rest

/-- A place can be followed in two stretches. -/
theorem at?_append (e : Effect) (p q : Place) :
    e.at? (p ++ q) = (e.at? p).bind fun c => c.at? q := by
  induction p generalizing e with
  | nil => rfl
  | cons s rest ih =>
    rw [List.cons_append, at?, at?, Option.bind_assoc]
    exact congrArg _ (funext ih)

theorem at?_child {root e c : Effect} {p : Place} {s : Segment} (hat : root.at? p = some e)
    (hc : e.child? s = some c) : root.at? (p ++ [s]) = some c := by
  rw [at?_append, hat, Option.bind_some, at?, hc]
  rfl

/-! ## Children -/

theorem mem_mapIdx_label_iff {α : Type} {label : Nat → Segment} {f : α → Effect} {l : List α}
    {s : Segment} {c : Effect} :
    (s, c) ∈ (l.mapIdx fun i a => (label i, f a)) ↔ ∃ i, s = label i ∧ l[i]?.map f = some c := by
  rw [List.mem_mapIdx]
  constructor
  · rintro ⟨i, hi, heq⟩
    cases heq
    exact ⟨i, rfl, by simp [hi]⟩
  · rintro ⟨i, rfl, hc⟩
    obtain ⟨a, ha, rfl⟩ := Option.map_eq_some_iff.mp hc
    obtain ⟨hi, rfl⟩ := List.getElem?_eq_some_iff.mp ha
    exact ⟨i, hi, rfl⟩

/-- A segment labels a child exactly if it leads to it. -/
theorem mem_labelled_iff {e c : Effect} {s : Segment} :
    (s, c) ∈ e.labelled ↔ e.child? s = some c := by
  cases e with
  | basic b => simp [labelled, child?]
  | conditional q t f m => cases s <;> simp [labelled, child?, eq_comm]
  | multi bs d m =>
    rw [labelled, List.mem_append, mem_mapIdx_label_iff]
    cases s <;> simp [child?]
  | choice d lo hi os m =>
    refine (mem_mapIdx_label_iff (f := id)).trans ?_
    cases s <;> simp [child?]
  | forEach t b d m => cases s <;> simp [labelled, child?, eq_comm]
  | composite es d m =>
    refine (mem_mapIdx_label_iff (f := id)).trans ?_
    cases s <;> simp [child?]

theorem sizeOf_child?_lt {e c : Effect} {s : Segment} (h : e.child? s = some c) :
    sizeOf c < sizeOf e := by
  cases e with
  | basic b => cases h
  | conditional q t f m =>
    cases s <;> cases h <;> simp <;> omega
  | multi bs d m =>
    cases s with
    | branch i =>
      obtain ⟨b, hb, rfl⟩ := Option.map_eq_some_iff.mp h
      have hlt := List.sizeOf_lt_of_mem (List.mem_of_getElem? hb)
      obtain ⟨q, c⟩ := b
      simp only [Prod.mk.sizeOf_spec, multi.sizeOf_spec] at hlt ⊢
      omega
    | default =>
      cases h
      simp
      omega
    | _ => cases h
  | choice d lo hi os m =>
    cases s with
    | option i =>
      have hlt := List.sizeOf_lt_of_mem (List.mem_of_getElem? h)
      simp only [choice.sizeOf_spec]
      omega
    | _ => cases h
  | forEach t b d m =>
    cases s <;> cases h
    simp
    omega
  | composite es d m =>
    cases s with
    | member i =>
      have hlt := List.sizeOf_lt_of_mem (List.mem_of_getElem? h)
      simp only [composite.sizeOf_spec]
      omega
    | _ => cases h

theorem hasSegment_of_child? {e c : Effect} {s : Segment} (h : e.child? s = some c) :
    e.shape.HasSegment s := by
  cases e <;> cases s <;> trivial

/-! ## Nodes -/

theorem listNodesAt_eq (p : Place) (label : Nat → Segment) (i : Nat) (es : List Effect) :
    listNodesAt p label i es =
      (es.mapIdx fun k e => (label (i + k), e)).flatMap fun c => c.2.nodesAt (p ++ [c.1]) := by
  induction es generalizing i with
  | nil => rfl
  | cons e rest ih =>
    simp [listNodesAt, ih, List.mapIdx_cons, Nat.add_assoc, Nat.add_comm 1]

theorem branchNodesAt_eq (p : Place) (i : Nat) (bs : List (Condition × Effect)) :
    branchNodesAt p i bs =
      (bs.mapIdx fun k b => (Segment.branch (i + k), b.2)).flatMap fun c =>
        c.2.nodesAt (p ++ [c.1]) := by
  induction bs generalizing i with
  | nil => rfl
  | cons b rest ih =>
    obtain ⟨c, e⟩ := b
    simp [branchNodesAt, ih, List.mapIdx_cons, Nat.add_assoc, Nat.add_comm 1]

/-- The nodes of a tree are its root and the nodes of its children. -/
theorem nodesAt_eq (p : Place) (e : Effect) :
    e.nodesAt p = (p, e) :: e.labelled.flatMap fun c => c.2.nodesAt (p ++ [c.1]) := by
  cases e with
  | basic b => rfl
  | conditional c t f m => cases f <;> simp [nodesAt, labelled, optionNodesAt]
  | multi bs d m => cases d <;> simp [nodesAt, labelled, branchNodesAt_eq, optionNodesAt]
  | choice d lo hi os m => simp [nodesAt, labelled, listNodesAt_eq]
  | forEach t b d m => simp [nodesAt, labelled]
  | composite es d m => simp [nodesAt, labelled, listNodesAt_eq]

theorem at?_of_mem_nodesAt {p q : Place} {e n : Effect} (h : (q, n) ∈ e.nodesAt p) :
    ∃ r, q = p ++ r ∧ e.at? r = some n := by
  rw [nodesAt_eq] at h
  rcases List.mem_cons.mp h with heq | hbelow
  · cases heq
    exact ⟨[], (List.append_nil _).symm, rfl⟩
  · obtain ⟨⟨s, c⟩, hc, hn⟩ := List.mem_flatMap.mp hbelow
    have hchild := mem_labelled_iff.mp hc
    -- Nodes are listed below any place, so the induction goes by the size of the tree.
    have := sizeOf_child?_lt hchild
    obtain ⟨r, rfl, hr⟩ := at?_of_mem_nodesAt hn
    exact ⟨s :: r, by simp, by rw [at?, hchild]; exact hr⟩
termination_by sizeOf e

theorem mem_nodesAt_of_at? {r : Place} {e n : Effect} (h : e.at? r = some n) (p : Place) :
    (p ++ r, n) ∈ e.nodesAt p := by
  induction r generalizing e p with
  | nil =>
    cases h
    rw [nodesAt_eq, List.append_nil]
    exact List.mem_cons_self
  | cons s rest ih =>
    obtain ⟨c, hc, hn⟩ := Option.bind_eq_some_iff.mp h
    rw [nodesAt_eq]
    refine List.mem_cons_of_mem _ (List.mem_flatMap.mpr ⟨(s, c), mem_labelled_iff.mpr hc, ?_⟩)
    simpa using ih hn (p ++ [s])

theorem mem_nodes_iff {p : Place} {e n : Effect} : (p, n) ∈ e.nodes ↔ e.at? p = some n := by
  constructor
  · intro h
    obtain ⟨r, rfl, hr⟩ := at?_of_mem_nodesAt h
    exact hr
  · exact fun h => mem_nodesAt_of_at? h []

/-! ## Paths -/

theorem at?_branchJson (b : Condition × Effect) :
    (branchJson b).at? [.member "effect"] = some b.2.toJson := rfl

theorem at?_toJson_segment (e : Effect) (s : Segment) :
    e.toJson.at? s.path = (e.child? s).map toJson := by
  rw [toJson_eq]
  cases e with
  | multi bs d m =>
    cases s with
    | branch i =>
      cases hb : bs[i]? <;>
        simp [members, child?, Segment.path, Json.at?_obj_member, Json.find?, Json.at?_arr_item, hb,
          at?_branchJson]
    | _ => simp [members, child?, Segment.path, Json.at?_obj_member, Json.find?, Json.at?_nil]
  | _ =>
    cases s <;>
      simp [members, child?, Segment.path, Json.at?_obj_member, Json.find?, Json.at?_arr_item,
        Json.at?_nil]

/-- A place is followed in what a tree is written as just as it is followed in the tree. -/
theorem at?_toJson (e : Effect) (p : Place) : e.toJson.at? p.path = (e.at? p).map toJson := by
  induction p generalizing e with
  | nil => rfl
  | cons s rest ih =>
    rw [Place.path_cons, Json.at?_append, at?_toJson_segment, at?, Option.bind_map, Option.map_bind]
    exact congrArg (e.child? s).bind (funext ih)

end Effect

/-- Different segments go different ways. -/
theorem Segment.apart_path {s t : Segment} (h : s ≠ t) : Json.Path.Apart s.path t.path := by
  cases s <;> cases t <;> simp_all [path, Json.Path.Apart]

end CityCards
