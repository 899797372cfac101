import CityCards.Proofs.Catalog.Localisation

/-!
# Where the way down ends

A card that cannot be read is reported with a path if its tree cannot be read as one. The path is
found by going down once more, and every part on the way is asked whether it can be read as a tree.
That is the right question where a tree has to be; where there may be none, `null` can stand as
well, and is taken for a fault all the same.

Main definitions:
* `Json.Path.isOptional`: the places in a card where a tree may be missing.
* `readsInRole`: the value is readable as what is expected at the path.
* `Card.faultyName?`: the name under which a card holds something that is no tree.

Results:
* `exists_place_blame`: the way down ends at a part that is no tree, and has only trees below it.
* `cardBlame?_eq_none_iff`: there is no way down exactly if all that could be a tree is one.
* `Catalog.blame_of_readCard`: a part of a card that is blamed can be read in its role exactly if it
  is an optional `null`.
* `Catalog.readCard_blames_null`: such parts are blamed.
-/

namespace CityCards

open Json (Path Step)

/-! ## What is expected where -/

/-- In a card there need not be a tree, and so it is with what a question does if the answer is no
and with the default of a node with branches. Any other child has to be there. -/
def Json.Path.isOptional (p : Path) : Bool :=
  match p.getLast? with
  | some (.member name) => name ∈ Card.treeNames ++ ["ifFalse", "default"]
  | _ => false

/-- The value can be read as what is expected in a card at the path. -/
def readsInRole (p : Path) (v : Json) : Bool :=
  if p.isOptional then (Json.readOption Effect.ofJson v).isOk else (Effect.ofJson v).isOk

theorem readsInRole_iff_of_isUnreadable {v : Json} (h : isUnreadable v = true) (p : Path) :
    readsInRole p v = true ↔ v = .null ∧ p.isOptional = true := by
  have hbad : (Effect.ofJson v).isOk = false := by simpa [isUnreadable] using h
  unfold readsInRole
  split
  · rename_i hp
    constructor
    · intro hread
      cases ho : Json.readOption Effect.ofJson v with
      | error error =>
        rw [ho] at hread
        cases hread
      | ok o =>
        rcases Json.eq_null_or_of_readOption ho with hnull | ⟨e, he⟩
        · exact ⟨hnull, hp⟩
        · rw [he] at hbad
          cases hbad
    · rintro ⟨rfl, -⟩
      rfl
  · rename_i hp
    simp [hbad, hp]

/-! ## The way down -/

/-- From a value that is no tree, the way down leads to a place where there is none either, while
all children of what is there are trees. -/
theorem exists_place_blame {j : Json} (h : isUnreadable j = true) :
    ∃ (p : Place) (v : Json), blame j = p.path ∧ j.at? p.path = some v ∧ isUnreadable v = true ∧
      ∀ n ∈ childNodes v, isUnreadable n.2 = false := by
  induction j using blame.induct with
  | case1 j hnone =>
    have hchildren := find?_isUnreadable_eq_none_iff.mp hnone
    exact ⟨[], j, blame_eq_nil hchildren, Json.at?_nil j, h, hchildren⟩
  | case2 j n hfirst ih =>
    have hbad := List.find?_some hfirst
    obtain ⟨p, v, hp, hv, hvbad, hchildren⟩ := ih hbad
    obtain ⟨s, hs, hat⟩ := mem_childNodes_iff.mp (List.mem_of_find?_eq_some hfirst)
    refine ⟨s :: p, v, ?_, ?_, hvbad, hchildren⟩
    · rw [blame_of_find? hfirst, hs, hp, Place.path_cons]
    · rw [Place.path_cons, Json.at?_append, hat]
      exact hv

/-- The first name for the tree of a card under which the card holds something that is no tree. -/
def Card.faultyName? (card : Json) : Option String :=
  treeNames.find? fun name => (card.get? name).any isUnreadable

theorem Card.isUnreadable_of_faultyName? {card tree : Json} {name : String}
    (hname : faultyName? card = some name) (htree : card.get? name = some tree) :
    isUnreadable tree = true := by
  have hany := List.find?_some hname
  rwa [htree] at hany

/-- The way down from a card begins at that name. -/
theorem cardBlame?_eq (card : Json) :
    cardBlame? card = (Card.faultyName? card).bind fun name =>
      (card.get? name).map fun tree => .member name :: blame tree := by
  rw [cardBlame?, Card.faultyName?]
  induction Card.treeNames with
  | nil => rfl
  | cons name rest ih =>
    rw [List.findSome?_cons, List.find?_cons, ih]
    cases htree : card.get? name with
    | none => rfl
    | some tree => cases hbad : isUnreadable tree <;> simp [htree, hbad]

theorem cardBlame?_eq_some_iff {card : Json} {p : Path} :
    cardBlame? card = some p ↔ ∃ name tree, Card.faultyName? card = some name ∧
      card.get? name = some tree ∧ .member name :: blame tree = p := by
  simp only [cardBlame?_eq, Option.bind_eq_some_iff, Option.map_eq_some_iff, exists_and_left]

theorem cardBlame?_eq_none_iff {card : Json} :
    cardBlame? card = none ↔
      ∀ name ∈ Card.treeNames, ∀ tree, card.get? name = some tree → isUnreadable tree = false := by
  rw [cardBlame?, List.findSome?_eq_none_iff]
  refine forall₂_congr fun name _ => ?_
  cases card.get? name <;> simp

/-- From a card, the way down leads on from that name to a place with no tree, but only trees below
it. -/
theorem exists_place_cardBlame {card : Json} {p : Path} (h : cardBlame? card = some p) :
    ∃ (name : String) (place : Place) (v : Json), Card.faultyName? card = some name ∧
      p = .member name :: place.path ∧ card.at? p = some v ∧ isUnreadable v = true ∧
      ∀ n ∈ childNodes v, isUnreadable n.2 = false := by
  obtain ⟨name, tree, hname, htree, rfl⟩ := cardBlame?_eq_some_iff.mp h
  obtain ⟨place, v, hplace, hv, hvbad, hchildren⟩ :=
    exists_place_blame (Card.isUnreadable_of_faultyName? hname htree)
  refine ⟨name, place, v, hname, by rw [hplace], ?_, hvbad, hchildren⟩
  rw [hplace, Json.at?_member, htree]
  exact hv

/-- A part of a card that is blamed is there, and is no tree. -/
theorem exists_at?_cardBlame {card : Json} {p : Path} (h : cardBlame? card = some p) :
    ∃ v, card.at? p = some v ∧ isUnreadable v = true := by
  obtain ⟨-, -, v, -, -, hv, hvbad, -⟩ := exists_place_cardBlame h
  exact ⟨v, hv, hvbad⟩

/-! ## The report -/

namespace Catalog

theorem path_of_readCard {number : Nat} {j : Json} {id : String} {path : Option Path}
    {error : ReadError} (h : readCard number j = .error (.invalidCard id path error)) :
    path = cardBlame? j := by
  unfold readCard at h
  cases hj : Card.ofJson j with
  | ok card => simp [hj] at h
  | error e =>
    simp only [hj, Except.error.injEq, CatalogError.invalidCard.injEq] at h
    exact h.2.1.symm

/-- Something that is no tree and has no child nodes is itself to blame. -/
theorem readCard_of_childless {j tree : Json} {error : ReadError} (number : Nat)
    (herror : Card.ofJson j = .error error) (htree : j.get? "effectTree" = some tree)
    (hother : j.get? "efectoEstructurado" = none) (hbad : isUnreadable tree = true)
    (hchildren : childNodes tree = []) :
    readCard number j =
      .error (.invalidCard (reportedId number j) (some [.member "effectTree"]) error) := by
  have honly : ∀ k ∈ Card.treeNames, k ≠ "effectTree" → j.get? k = none := by
    simpa [Card.treeNames] using hother
  have hnil : blame tree = [] := blame_eq_nil (by simp [hchildren])
  rw [readCard, herror, cardBlame?_of_get? (by decide) honly htree hbad, hnil]

/-- A card that cannot be read is reported without a path exactly if each member that could hold its
tree is a tree, so that the fault is elsewhere. If it is reported with a path, there is a part at
the path that is no tree; and this part can be read in its role in no other case than that it is
`null` where a tree may be missing. -/
theorem blame_of_readCard {number : Nat} {j : Json} {id : String} {path : Option Path}
    {error : ReadError} (h : readCard number j = .error (.invalidCard id path error)) :
    (path = none ↔
      ∀ name ∈ Card.treeNames, ∀ tree, j.get? name = some tree → isUnreadable tree = false) ∧
    ∀ p, path = some p → ∃ v, j.at? p = some v ∧ isUnreadable v = true ∧
      (readsInRole p v = true ↔ v = .null ∧ p.isOptional = true) := by
  obtain rfl := path_of_readCard h
  refine ⟨cardBlame?_eq_none_iff, fun p hp => ?_⟩
  obtain ⟨v, hv, hbad⟩ := exists_at?_cardBlame hp
  exact ⟨v, hv, hbad, readsInRole_iff_of_isUnreadable hbad p⟩

/-- What is blamed for a tree of an unknown kind cannot be read in its role. -/
theorem blame_of_readCard_unknownNode :
    ∃ error, readCard 0 (cardWith unknownNode) =
      .error (.invalidCard "OC-01" (some [.member "effectTree"]) error) ∧
      ∃ v, (cardWith unknownNode).at? [.member "effectTree"] = some v ∧
        readsInRole [.member "effectTree"] v = false := by
  obtain ⟨error, herror⟩ : ∃ error, Card.ofJson (cardWith unknownNode) = .error error := ⟨_, rfl⟩
  have hread : readCard 0 (cardWith unknownNode) =
      .error (.invalidCard "OC-01" (some [.member "effectTree"]) error) :=
    readCard_of_childless 0 herror rfl rfl rfl rfl
  obtain ⟨v, hv, -, hrole⟩ := (blame_of_readCard hread).2 _ rfl
  refine ⟨error, hread, v, hv, Bool.eq_false_iff.mpr fun hreads => ?_⟩
  rw [(hrole.mp hreads).1] at hv
  cases hv

/-- A card that has `null` for its tree. -/
def treelessCard (type : String) : Json :=
  .obj [("effectTree", .null), ("id", .str "OC-01"), ("type", .str type)]

/-- A card of an unknown type is blamed for its tree, although a card that differs from it in
nothing but the type is read as one without a tree. -/
theorem readCard_blames_null :
    (∃ error, readCard 0 (treelessCard "leyenda") =
      .error (.invalidCard "OC-01" (some [.member "effectTree"]) error)) ∧
    (treelessCard "leyenda").at? [.member "effectTree"] = some .null ∧
    readsInRole [.member "effectTree"] .null = true ∧
    Card.ofJson (treelessCard "ocaso") = .ok (Card.blank "OC-01" .sunset "") := by
  obtain ⟨error, herror⟩ : ∃ error, Card.ofJson (treelessCard "leyenda") = .error error := ⟨_, rfl⟩
  exact ⟨⟨error, readCard_of_childless 0 herror rfl rfl rfl rfl⟩, rfl, rfl, rfl⟩

end Catalog

end CityCards
