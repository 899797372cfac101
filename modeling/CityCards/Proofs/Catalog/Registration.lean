import Mathlib.Data.List.Nodup
import CityCards.Catalog.Catalog

/-!
# Cards and their index

A catalog keeps its cards in a list, and finds them by an index beside it. Neither looks at the
other when a card is looked up; that both fit together is a matter of how the catalog came about,
which is by offering cards to the empty catalog, one after the other.

Main definitions:
* `Catalog.Consistent`: the index has the ids of all cards at the positions of the cards.
* `Catalog.offerAll`: any cards offered in a row.
* `Catalog.FilledBy`: what is to be known of a catalog after such offers.

Results:
* `Catalog.Consistent.offer`: an offer keeps a catalog consistent, whether the card is taken or not.
* `Catalog.Consistent.offerAll`: so do any offers in a row.
* `Catalog.filledBy_offerAll`: what is found in a catalog, and what the next offer does, can be read
  off the cards that have been offered.
-/

namespace CityCards

namespace Catalog

/-! ## The index -/

/-- No two cards have the same id, and the index has the ids of the cards and no others, each at the
position of the card. -/
structure Consistent (c : Catalog) : Prop where
  ids_nodup : c.ids.Nodup
  position?_eq_some_iff : ∀ id i, c.position? id = some i ↔ c.ids[i]? = some id

theorem consistent_empty : empty.Consistent := by
  constructor <;> simp [empty, ids, position?]

section

variable {c : Catalog} {id : String} {card : Card}

theorem Consistent.contains_iff (h : c.Consistent) : c.contains id = true ↔ id ∈ c.ids := by
  rw [contains, Option.isSome_iff_exists, List.mem_iff_getElem?]
  exact exists_congr (h.position?_eq_some_iff id)

theorem Consistent.not_mem_ids (h : c.Consistent) (hc : c.contains id = false) : id ∉ c.ids := by
  rw [← h.contains_iff, hc]
  exact Bool.false_ne_true

/-- The position of an id is that of a card with this id, so it is never out of range. -/
theorem Consistent.exists_of_position? (h : c.Consistent) {i : Nat}
    (hi : c.position? id = some i) : ∃ card, c.cards[i]? = some card ∧ card.id = id := by
  have hid := (h.position?_eq_some_iff id i).mp hi
  rwa [ids, List.getElem?_map, Option.map_eq_some_iff] at hid

theorem Consistent.get?_eq_some_iff (h : c.Consistent) :
    c.get? id = some card ↔ card ∈ c.cards ∧ card.id = id := by
  rw [get?, Option.bind_eq_some_iff]
  constructor
  · rintro ⟨i, hi, hcard⟩
    obtain ⟨card', hcard', hid⟩ := h.exists_of_position? hi
    obtain rfl : card' = card := Option.some.inj (hcard'.symm.trans hcard)
    exact ⟨List.mem_of_getElem? hcard, hid⟩
  · rintro ⟨hmem, rfl⟩
    obtain ⟨i, hi⟩ := List.mem_iff_getElem?.mp hmem
    have hid : c.ids[i]? = some card.id := by rw [ids, List.getElem?_map, hi]; rfl
    exact ⟨i, (h.position?_eq_some_iff _ i).mpr hid, hi⟩

theorem Consistent.find?_eq_some_iff (h : c.Consistent) :
    (c.cards.find? fun card => card.id = id) = some card ↔ card ∈ c.cards ∧ card.id = id := by
  constructor
  · intro hfound
    exact ⟨List.mem_of_find?_eq_some hfound, by simpa using List.find?_some hfound⟩
  · rintro ⟨hmem, hid⟩
    have hsome : (c.cards.find? fun card => card.id = id).isSome = true :=
      List.find?_isSome.mpr ⟨card, hmem, by simpa using hid⟩
    obtain ⟨card', hcard'⟩ := Option.isSome_iff_exists.mp hsome
    have hid' : card'.id = id := by simpa using List.find?_some hcard'
    rw [hcard', List.inj_on_of_nodup_map h.ids_nodup (List.mem_of_find?_eq_some hcard') hmem
      (hid'.trans hid.symm)]

/-- What is found by the index is what is found by going through the cards. -/
theorem Consistent.get?_eq_find? (h : c.Consistent) (id : String) :
    c.get? id = c.cards.find? fun card => card.id = id :=
  Option.ext fun _ => h.get?_eq_some_iff.trans h.find?_eq_some_iff.symm

theorem Consistent.contains_eq_isSome (h : c.Consistent) (id : String) :
    c.contains id = (c.get? id).isSome := by
  rw [Bool.eq_iff_iff, h.contains_iff, h.get?_eq_find?, List.find?_isSome]
  simp [ids]

/-! ## One offer -/

theorem getElem?_snoc_eq_some_iff {α : Type} {l : List α} {a b : α} {i : Nat} :
    (l ++ [a])[i]? = some b ↔ l[i]? = some b ∨ i = l.length ∧ a = b := by
  rcases Nat.lt_trichotomy i l.length with hlt | rfl | hgt
  · simp [List.getElem?_append_left hlt, Nat.ne_of_lt hlt]
  · simp
  · have hlong : (l ++ [a]).length ≤ i := by simpa using Nat.succ_le_of_lt hgt
    simp [List.getElem?_eq_none hlong, List.getElem?_eq_none (Nat.le_of_lt hgt), Nat.ne_of_gt hgt]

/-- An offer keeps a catalog consistent. -/
theorem Consistent.offer (h : c.Consistent) (card : Card) : (c.offer card).2.Consistent := by
  cases hc : c.contains card.id with
  | true =>
    rw [offer_of_contains hc]
    exact h
  | false =>
    have hnew := h.not_mem_ids hc
    have hids : (c.cards ++ [card]).map Card.id = c.ids ++ [card.id] := by simp [ids]
    have hlength : c.ids.length = c.cards.length := by simp [ids]
    rw [offer_of_not_contains hc]
    constructor
    · rw [ids, hids, ← List.concat_eq_append]
      exact h.ids_nodup.concat hnew
    · intro id i
      rw [ids, hids, getElem?_snoc_eq_some_iff, ← h.position?_eq_some_iff, position?, hlength]
      by_cases hid : id = card.id
      · -- The id is new to the old catalog, so only the new entry counts.
        have hnone : c.position? id = none := by
          simpa [contains, hid] using hc
        rw [hnone]
        simp [hid, eq_comm]
      · have hne : (id == card.id) = false := by simpa using hid
        simp [List.lookup_cons, hne, Ne.symm hid, position?]

/-- As far as finding cards by their ids goes, it is no matter that a card is not taken. -/
theorem Consistent.find?_offer (h : c.Consistent) (card : Card) (id : String) :
    ((c.offer card).2.cards.find? fun k => k.id = id) =
      (c.cards ++ [card]).find? fun k => k.id = id := by
  cases hc : c.contains card.id with
  | true =>
    rw [offer_of_contains hc, List.find?_append]
    by_cases hid : card.id = id
    · have hsome : (c.cards.find? fun k => k.id = id).isSome = true := by
        rw [← h.get?_eq_find?, ← h.contains_eq_isSome, ← hid, hc]
      obtain ⟨first, hfirst⟩ := Option.isSome_iff_exists.mp hsome
      simp [hfirst]
    · simp [hid]
  | false => rw [offer_of_not_contains hc]

theorem offer_error_iff : (∃ e, (c.offer card).1 = .error e) ↔ c.contains card.id = true := by
  cases hc : c.contains card.id with
  | true => simp [offer_of_contains hc]
  | false => simp [offer_of_not_contains hc]

/-- A card that is not taken leaves the catalog as it was. -/
theorem offer_eq_of_error {e : CatalogError} (h : (c.offer card).1 = .error e) :
    c.offer card = (.error (.duplicateId card.id), c) :=
  offer_of_contains (offer_error_iff.mp ⟨e, h⟩)

end

/-! ## Any offers in a row -/

/-- Offers cards one after the other: the answers, and the catalog in the end. -/
def offerAll : Catalog → List Card → List (Except CatalogError Unit) × Catalog
  | c, [] => ([], c)
  | c, card :: rest =>
    let next := offerAll (c.offer card).2 rest
    ((c.offer card).1 :: next.1, next.2)

/-- The cards that were offered without an error for an answer. -/
def taken (cards : List Card) (answers : List (Except CatalogError Unit)) : List Card :=
  ((cards.zip answers).filter fun x => x.2.isOk).map Prod.fst

section

variable {c : Catalog}

theorem length_offerAll (c : Catalog) (cards : List Card) :
    (c.offerAll cards).1.length = cards.length := by
  induction cards generalizing c with
  | nil => rfl
  | cons card rest ih => simp [offerAll, ih]

/-- The cards that are taken come last, in the order in which they are offered. -/
theorem cards_offerAll (c : Catalog) (cards : List Card) :
    (c.offerAll cards).2.cards = c.cards ++ taken cards (c.offerAll cards).1 := by
  induction cards generalizing c with
  | nil => simp [offerAll, taken]
  | cons card rest ih =>
    simp only [offerAll, ih, taken, List.zip_cons_cons, List.filter_cons]
    cases hc : c.contains card.id with
    | true => simp [offer_of_contains hc, Except.isOk, Except.toBool]
    | false => simp [offer_of_not_contains hc, Except.isOk, Except.toBool]

theorem Consistent.offerAll (h : c.Consistent) (cards : List Card) :
    (c.offerAll cards).2.Consistent := by
  induction cards generalizing c with
  | nil => exact h
  | cons card rest ih => exact ih (h.offer card)

theorem Consistent.find?_offerAll (h : c.Consistent) (cards : List Card) (id : String) :
    ((c.offerAll cards).2.cards.find? fun k => k.id = id) =
      (c.cards ++ cards).find? fun k => k.id = id := by
  induction cards generalizing c with
  | nil => rw [Catalog.offerAll, List.append_nil]
  | cons card rest ih =>
    calc
      ((c.offerAll (card :: rest)).2.cards.find? fun k => k.id = id)
        = ((c.offer card).2.cards ++ rest).find? fun k => k.id = id := ih (h.offer card)
      _ = (c.cards ++ card :: rest).find? fun k => k.id = id := by
        rw [List.find?_append, h.find?_offer, ← List.find?_append, List.append_assoc,
          List.singleton_append]

end

/-! ## Decks -/

section

variable {c : Catalog}

theorem mem_ofType_iff {t : CardType} {card : Card} :
    card ∈ c.ofType t ↔ card ∈ c.cards ∧ card.type = t := by
  simp [ofType]

/-- Every card of a catalog is in one of its decks, and in no other. -/
theorem Consistent.decks_perm (h : c.Consistent) :
    ((Vocabulary.all : List CardType).flatMap c.ofType).Perm c.cards := by
  have hnodup : c.cards.Nodup := h.ids_nodup.of_map
  have hdecks : ((Vocabulary.all : List CardType).flatMap c.ofType).Nodup := by
    refine List.nodup_flatMap.mpr ⟨fun t _ => hnodup.filter _, ?_⟩
    refine (Vocabulary.all_nodup (κ := CardType)).imp fun {t u} hne => ?_
    intro card ht hu
    exact hne ((mem_ofType_iff.mp ht).2.symm.trans (mem_ofType_iff.mp hu).2)
  refine (List.perm_ext_iff_of_nodup hdecks hnodup).mpr fun card => ?_
  simp [mem_ofType_iff, Vocabulary.mem_all]

end

/-! ## What is to be known of a catalog -/

/-- The catalog is what it has to be after these cards have been offered to the empty catalog, with
these answers. -/
structure FilledBy (cards : List Card) (answers : List (Except CatalogError Unit)) (c : Catalog) :
    Prop where
  length_eq : answers.length = cards.length
  consistent : c.Consistent
  /-- Looking up a card never goes out of range. -/
  exists_of_position? : ∀ id i, c.position? id = some i →
    ∃ card, c.cards[i]? = some card ∧ card.id = id
  /-- The first card that was offered under an id is the one that is found. -/
  get?_eq : ∀ id, c.get? id = cards.find? fun card => card.id = id
  contains_eq : ∀ id, c.contains id = (c.get? id).isSome
  cards_eq : c.cards = taken cards answers
  /-- The next card is not taken exactly if its id is there. -/
  error_iff : ∀ card, (∃ e, (c.offer card).1 = .error e) ↔ c.contains card.id = true
  unchanged : ∀ card e, (c.offer card).1 = .error e →
    c.offer card = (.error (.duplicateId card.id), c)
  ofType_sublist : ∀ t, (c.ofType t).Sublist c.cards
  mem_ofType_iff : ∀ t card, card ∈ c.ofType t ↔ card ∈ c.cards ∧ card.type = t
  decks_perm : ((Vocabulary.all : List CardType).flatMap c.ofType).Perm c.cards

/-- Whatever cards have been offered, taken or not: list and index of the catalog fit together, the
first card under an id is found under it, the cards that were taken are there in order, and a card
that is not taken has an id that is there already and changes nothing. -/
theorem filledBy_offerAll (cards : List Card) :
    FilledBy cards (empty.offerAll cards).1 (empty.offerAll cards).2 := by
  have h := consistent_empty.offerAll cards
  constructor
  · exact length_offerAll empty cards
  · exact h
  · exact fun id i hi => h.exists_of_position? hi
  · intro id
    rw [h.get?_eq_find?, consistent_empty.find?_offerAll]
    rfl
  · exact h.contains_eq_isSome
  · exact cards_offerAll empty cards
  · exact fun card => offer_error_iff
  · exact fun card e he => offer_eq_of_error he
  · exact fun t => List.filter_sublist
  · exact fun t card => mem_ofType_iff
  · exact h.decks_perm

end Catalog

end CityCards
