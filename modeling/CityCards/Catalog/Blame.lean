import CityCards.Catalog.Card
import CityCards.Json.Path

/-!
# Finding the node at fault

A node of an effect tree carries no tag, so a fault deep inside it only shows in that the whole tree
cannot be read. The node at fault is found by going down: from a node that cannot be read to the
first of its children that cannot be read, as long as there is one.

Main definitions:
* `childNodes`: the parts of a value that stand where a node has its children.
* `blame`: the way from a value to the node at fault.
* `cardBlame?`: the way from a card to the node at fault.
-/

namespace CityCards

open Json (Path Step)

/-! ## Where children stand -/

/-- The member of that name, if there is one, with the way to it. -/
def memberNode (j : Json) (name : String) : List (Path × Json) :=
  ((j.get? name).map fun v => ([Step.member name], v)).toList

/-- The items of the member of that name. -/
def memberItems (j : Json) (name : String) : List Json :=
  ((j.get? name).bind Json.asItems?).getD []

/-- The items of the member of that name, each with the way to it. -/
def itemNodes (j : Json) (name : String) : List (Path × Json) :=
  (memberItems j name).mapIdx fun i v => ([Step.member name, .item i], v)

/-- The effects of branches, each with the way to it. -/
def branchNodes (j : Json) : List (Path × Json) :=
  ((memberItems j "branches").mapIdx fun i b =>
    (memberNode b "effect").map fun n => ([Step.member "branches", .item i] ++ n.1, n.2)).flatten

/-- Model of `child_nodes`. The parts of a value that stand where a node has its children, each with
the way to it. -/
def childNodes (j : Json) : List (Path × Json) :=
  ["ifTrue", "ifFalse", "default", "effect"].flatMap (memberNode j) ++ branchNodes j
    ++ ["options", "effects"].flatMap (itemNodes j)

/-! ## Children are smaller -/

theorem Json.sizeOf_find?_lt {name : String} {ms : List (String × Json)} {v : Json}
    (h : find? name ms = some v) : sizeOf v < sizeOf ms := by
  induction ms with
  | nil => simp [find?] at h
  | cons m rest ih =>
    obtain ⟨k, w⟩ := m
    rw [find?] at h
    split at h
    · cases h
      simp only [List.cons.sizeOf_spec, Prod.mk.sizeOf_spec]
      omega
    · have := ih h
      simp only [List.cons.sizeOf_spec]
      omega

theorem Json.sizeOf_get?_lt {name : String} {j v : Json} (h : j.get? name = some v) :
    sizeOf v < sizeOf j := by
  cases j with
  | obj ms =>
    have := sizeOf_find?_lt (h : find? name ms = some v)
    simp only [obj.sizeOf_spec]
    omega
  | _ => simp [get?] at h

theorem sizeOf_lt_of_mem_memberNode {j : Json} {name : String} {n : Path × Json}
    (h : n ∈ memberNode j name) : sizeOf n.2 < sizeOf j := by
  unfold memberNode at h
  cases hv : j.get? name with
  | none => simp [hv] at h
  | some v =>
    have : n = ([Step.member name], v) := by simpa [hv] using h
    simpa [this] using Json.sizeOf_get?_lt hv

theorem sizeOf_lt_of_mem_memberItems {j k : Json} {name : String} (h : k ∈ memberItems j name) :
    sizeOf k < sizeOf j := by
  unfold memberItems at h
  cases hv : j.get? name with
  | none => simp [hv] at h
  | some v =>
    have hlt := Json.sizeOf_get?_lt hv
    cases v with
    | arr items =>
      have hk : k ∈ items := by simpa [hv, Json.asItems?] using h
      have := List.sizeOf_lt_of_mem hk
      simp only [Json.arr.sizeOf_spec] at hlt
      omega
    | _ => simp [hv, Json.asItems?] at h

theorem sizeOf_lt_of_mem_childNodes {j : Json} {n : Path × Json} (h : n ∈ childNodes j) :
    sizeOf n.2 < sizeOf j := by
  unfold childNodes at h
  rcases List.mem_append.1 h with h | h
  · rcases List.mem_append.1 h with h | h
    · obtain ⟨name, _, hn⟩ := List.mem_flatMap.1 h
      exact sizeOf_lt_of_mem_memberNode hn
    · obtain ⟨l, hl, hn⟩ := List.mem_flatten.1 h
      obtain ⟨i, hi, rfl⟩ := List.mem_mapIdx.1 hl
      obtain ⟨m, hm, rfl⟩ := List.mem_map.1 hn
      have h1 := sizeOf_lt_of_mem_memberNode hm
      have h2 := sizeOf_lt_of_mem_memberItems (List.getElem_mem hi)
      show sizeOf m.2 < sizeOf j
      omega
  · obtain ⟨name, _, hn⟩ := List.mem_flatMap.1 h
    obtain ⟨i, hi, rfl⟩ := List.mem_mapIdx.1 hn
    exact sizeOf_lt_of_mem_memberItems (List.getElem_mem hi)

/-! ## Going down -/

/-- The value cannot be read as an effect tree. -/
def isUnreadable (j : Json) : Bool := !(Effect.ofJson j).isOk

/-- Model of `bad_node_path`. The way from a value that cannot be read to the node at fault. -/
def blame (j : Json) : Path :=
  match _h : (childNodes j).find? fun n => isUnreadable n.2 with
  | none => []
  | some n => n.1 ++ blame n.2
termination_by sizeOf j
decreasing_by exact sizeOf_lt_of_mem_childNodes (List.mem_of_find?_eq_some _h)

/-- The way from a card to the node at fault, if its tree is. -/
def cardBlame? (card : Json) : Option Path :=
  Card.treeNames.findSome? fun name =>
    match card.get? name with
    | some tree => if isUnreadable tree then some (.member name :: blame tree) else none
    | none => none

end CityCards
