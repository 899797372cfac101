import CityCards.Proofs.Catalog.Descent
import CityCards.Proofs.Effect.Addresses

/-!
# What is blamed is lowest

The way down from a card that cannot be read is found in its JSON, which may have members of several
shapes at once, members that belong to none, and arrays where objects are expected. Whatever there
is, every node on the way is there and is no tree, and the way goes on as long as there is a child
that is none. So the path of a report is an address in the card, and what stands there is at fault
although nothing below it is.

Main definitions:
* `Json.Path.IsNodePath`: the places in a card where nodes of its tree stand.
* `Pinpoints`: the path leads to a lowest part at fault.

Results:
* `Segment.eq_of_path_append_isPrefix`: no segment is the beginning of another one.
* `exists_at?_of_isPrefix_blame`: every node on the way down is there and is no tree.
* `pinpoints_cardBlame`: the way down from a card leads to a lowest part at fault.
* `Catalog.readCard_pinpoints`: what that means for the report on a card.
-/

namespace CityCards

open Json (Path Step)

/-! ## Nodes on the way down -/

/-- A path that begins with a segment does not begin with any other one. -/
theorem Segment.eq_of_path_append_isPrefix {s t : Segment} {x y : Path}
    (h : s.path ++ x <+: t.path ++ y) : s = t ∧ x <+: y := by
  by_cases hst : s = t
  · subst hst
    exact ⟨rfl, (List.prefix_append_right_inj s.path).mp h⟩
  · obtain ⟨rest, hrest⟩ := h
    rw [List.append_assoc] at hrest
    exact absurd hrest ((Segment.apart_path hst).append_ne _ _)

/-- From a value that is no tree, the way down leads only through nodes that are none. -/
theorem exists_at?_of_isPrefix_blame {j : Json} {q : Place} (h : isUnreadable j = true)
    (hq : q.path <+: blame j) : ∃ v, j.at? q.path = some v ∧ isUnreadable v = true := by
  induction q generalizing j with
  | nil => exact ⟨j, Json.at?_nil j, h⟩
  | cons s rest ih =>
    rw [Place.path_cons] at hq
    cases hfirst : (childNodes j).find? fun n => isUnreadable n.2 with
    | none =>
      -- The way ends here, so there is no segment with which it could go on.
      obtain ⟨name, below, hs⟩ := s.exists_path_eq
      rw [blame_eq_nil (find?_isUnreadable_eq_none_iff.mp hfirst), hs] at hq
      cases List.prefix_nil.mp hq
    | some n =>
      have hbad := List.find?_some hfirst
      obtain ⟨t, ht, hat⟩ := mem_childNodes_iff.mp (List.mem_of_find?_eq_some hfirst)
      rw [blame_of_find? hfirst, ht] at hq
      obtain ⟨rfl, hrest⟩ := Segment.eq_of_path_append_isPrefix hq
      obtain ⟨v, hv, hvbad⟩ := ih hbad hrest
      refine ⟨v, ?_, hvbad⟩
      rw [Place.path_cons, Json.at?_append, hat]
      exact hv

/-! ## Lowest faults of a card -/

/-- The path leads to where a node stands in the tree of a card, by whichever name the tree goes. -/
def Json.Path.IsNodePath (p : Path) : Prop :=
  ∃ name ∈ Card.treeNames, ∃ place : Place, p = .member name :: place.path

/-- From a card, too, the way down leads only through nodes that are no trees. -/
theorem exists_at?_of_isPrefix_cardBlame {card : Json} {p q : Path} (h : cardBlame? card = some p)
    (hq : q.IsNodePath) (hqp : q <+: p) : ∃ v, card.at? q = some v ∧ isUnreadable v = true := by
  obtain ⟨name, tree, hname, htree, rfl⟩ := cardBlame?_eq_some_iff.mp h
  obtain ⟨name', -, place, rfl⟩ := hq
  obtain ⟨hname', hbelow⟩ := List.cons_prefix_cons.mp hqp
  obtain ⟨v, hv, hvbad⟩ :=
    exists_at?_of_isPrefix_blame (Card.isUnreadable_of_faultyName? hname htree) hbelow
  refine ⟨v, ?_, hvbad⟩
  rw [hname', Json.at?_member, htree]
  exact hv

/-- The path leads to a lowest part at fault in a card that has something else in the place of its
tree. -/
structure Pinpoints (card : Json) (p : Path) : Prop where
  /-- The way begins with the first name under which there is no tree, and goes on from child to
  child. -/
  begins : ∃ name place, Card.faultyName? card = some name ∧ p = .member name :: Place.path place
  /-- It ends at a part of the card that is no tree, while all children of this part are trees. -/
  ends : ∃ v, card.at? p = some v ∧ isUnreadable v = true ∧
    ∀ n ∈ childNodes v, isUnreadable n.2 = false
  /-- No node on the way is a tree. -/
  enclosing : ∀ q : Path, q.IsNodePath → q <+: p →
    ∃ v, card.at? q = some v ∧ isUnreadable v = true

theorem pinpoints_cardBlame {card : Json} {p : Path} (h : cardBlame? card = some p) :
    Pinpoints card p := by
  obtain ⟨name, place, v, hname, hp, hv, hvbad, hchildren⟩ := exists_place_cardBlame h
  exact {
    begins := ⟨name, place, hname, hp⟩
    ends := ⟨v, hv, hvbad, hchildren⟩
    enclosing := fun _ hq hqp => exists_at?_of_isPrefix_cardBlame h hq hqp }

/-- The text of such a path is read as the path. -/
theorem Pinpoints.ofText?_text {card : Json} {p : Path} (h : Pinpoints card p) :
    Path.ofText? p.text = some p := by
  obtain ⟨name, place, hname, rfl⟩ := h.begins
  have hplain : ∀ k ∈ Card.treeNames, Path.IsPlain [.member k] := by
    simp [Card.treeNames, Path.IsPlain, Path.IsPlainName]
  have hnode : Path.IsPlain ([.member name] ++ place.path) :=
    Path.isPlain_append.mpr ⟨hplain name (List.mem_of_find?_eq_some hname), place.isPlain_path⟩
  exact Path.ofText?_text hnode

/-! ## The report -/

namespace Catalog

/-- The report on a card that cannot be read has a path exactly if the card holds, by one of the
names for its tree, something that is no tree. The text of the path is read as member names and
indices. Followed in the card from the first such thing on, these lead to a part that is no tree
although all its children are trees, and every node above it is no tree either. -/
theorem readCard_pinpoints {j : Json} {error : ReadError} (number : Nat)
    (h : Card.ofJson j = .error error) :
    ∃ path, readCard number j = .error (.invalidCard (reportedId number j) path error) ∧
      (path.isSome ↔ ∃ name ∈ Card.treeNames, ∃ tree,
        j.get? name = some tree ∧ isUnreadable tree = true) ∧
      ∀ p, path = some p → Path.ofText? p.text = some p ∧ Pinpoints j p := by
  refine ⟨cardBlame? j, by rw [readCard, h], ?_, fun p hp => ?_⟩
  · rw [Option.isSome_iff_ne_none, ne_eq, cardBlame?_eq_none_iff]
    simp only [not_forall, Bool.not_eq_false, exists_prop]
  · have hpin := pinpoints_cardBlame hp
    exact ⟨hpin.ofText?_text, hpin⟩

/-- A node with branches, the second of which has no condition and an effect of a kind that there is
not. It has members of other shapes besides. -/
def tangledNode : Json :=
  .obj [("branches", .arr [.obj [("effect", (Effect.plain .heal "Cura").toJson)],
      .obj [("effect", unknownNode)]]),
    ("effects", .null), ("ifTrue", (Effect.plain .heal "Cura").toJson)]

/-- A card with a tree by one name and a node that is none by the other. -/
def tangledCard : Json :=
  .obj [("effectTree", (Effect.plain .heal "Cura").toJson), ("efectoEstructurado", tangledNode),
    ("id", .str "OC-01"), ("type", .str "ocaso")]

/-- The path to the unknown node. -/
def tangledPath : Path :=
  [.member "efectoEstructurado", .member "branches", .item 1, .member "effect"]

theorem cardBlame?_tangledCard : cardBlame? tangledCard = some tangledPath := by
  have hchildren : childNodes unknownNode = [] := rfl
  have hleaf : blame unknownNode = [] := blame_eq_nil (by simp [hchildren])
  have hnode : blame tangledNode = (Segment.branch 1).path ++ blame unknownNode :=
    blame_of_find? (n := ((Segment.branch 1).path, unknownNode)) rfl
  refine cardBlame?_eq_some_iff.mpr ⟨"efectoEstructurado", tangledNode, rfl, rfl, ?_⟩
  rw [hnode, hleaf]
  rfl

/-- The unknown node in the second branch is pinpointed, past the tree by the other name. -/
theorem readCard_pinpoints_tangled :
    ∃ error, Card.ofJson tangledCard = .error error ∧
      readCard 0 tangledCard = .error (.invalidCard "OC-01" (some tangledPath) error) ∧
      tangledPath.text = "efectoEstructurado.branches[1].effect" ∧
      Path.ofText? tangledPath.text = some tangledPath ∧ Pinpoints tangledCard tangledPath := by
  obtain ⟨error, herror⟩ : ∃ error, Card.ofJson tangledCard = .error error := ⟨_, rfl⟩
  obtain ⟨path, hread, -, hpath⟩ := readCard_pinpoints 0 herror
  obtain rfl := path_of_readCard hread
  rw [cardBlame?_tangledCard] at hread
  exact ⟨error, herror, hread, rfl, hpath _ cardBlame?_tangledCard⟩

end Catalog

end CityCards
