import CityCards.Proofs.Catalog.Registration

/-!
# What loading a catalog reports

A catalog is loaded in two rounds. In the first one the items are read and registered, one after the
other; in the second one the trees of all cards are checked. So an item that cannot be read, or that
repeats the id of an earlier one, is reported before any tree that is not sound, wherever they are.

Main definitions:
* `Catalog.ItemFault`: what is wrong with an item, given the items before it.
* `Catalog.Registrable`: nothing is wrong with any of the items.
* `Catalog.FirstTreeFault`: the first of the cards with a tree that is not sound.
* `Catalog.LoadedFrom`: what the result of loading the items has to be.

Results:
* `Catalog.Loading.step`: an item with a fault ends the first round with it, any other is
  registered.
* `Catalog.registerAll_cases`: the first round ends with the first fault of an item, if there is
  one.
* `Catalog.firstUnsound_eq_error_iff`: the second round ends with the first tree that is not sound.
* `Catalog.loadedFrom_ofItems`: what that means for items and for texts.
-/

namespace CityCards

/-- If the card has a tree, it is sound. -/
def Card.IsSound (card : Card) : Prop := ∀ e, card.tree = some e → e.isSound = true

namespace Catalog

/-! ## What is to be reported -/

/-- The items are read as the cards, one by one. -/
def ReadAs (items : List Json) (cards : List Card) : Prop :=
  items.map Card.ofJson = cards.map Except.ok

/-- A card that cannot be read is called by the text in its member `id`, or by its number if there
is no such text. -/
def Called (number : Nat) (j : Json) (name : String) : Prop :=
  j.get? "id" = some (.str name) ∨
    (∀ id, j.get? "id" ≠ some (.str id)) ∧ name = "#" ++ toString number

/-- What is wrong with an item that comes after others. -/
inductive ItemFault (before : List Json) (j : Json) : CatalogError → Prop where
  | unreadable {name : String} {error : ReadError} (hj : Card.ofJson j = .error error)
    (hname : Called before.length j name) :
    ItemFault before j (.invalidCard name (cardBlame? j) error)
  | repeated {k : Json} {card earlier : Card} (hj : Card.ofJson j = .ok card) (hk : k ∈ before)
    (hearlier : Card.ofJson k = .ok earlier) (hid : earlier.id = card.id) :
    ItemFault before j (.duplicateId card.id)

/-- Nothing is wrong with any of the items, so that they can be registered one after the other. -/
def Registrable (items : List Json) : Prop :=
  ∀ before j after error, items = before ++ j :: after → ¬ItemFault before j error

/-- The error is that of the first item with which something is wrong. -/
def FirstItemFault (items : List Json) (error : CatalogError) : Prop :=
  ∃ before j after, items = before ++ j :: after ∧ Registrable before ∧ ItemFault before j error

/-- The error is that of the first card with a tree that is not sound, and has all faults of this
tree. -/
def FirstTreeFault (cards : List Card) (error : CatalogError) : Prop :=
  ∃ before card after e, cards = before ++ card :: after ∧ (∀ c ∈ before, c.IsSound) ∧
    card.tree = some e ∧ e.isSound = false ∧ error = .unsound card.id e.violations

/-- The result of loading the items is what it has to be. -/
structure LoadedFrom (items : List Json) (result : Except CatalogError Catalog) : Prop where
  ok_iff : (∃ c, result = .ok c) ↔
    ∃ cards, ReadAs items cards ∧ (cards.map Card.id).Nodup ∧ ∀ card ∈ cards, card.IsSound
  cards_of_ok : ∀ c, result = .ok c → ReadAs items c.cards
  error_iff : ∀ error, result = .error error ↔
    FirstItemFault items error ∨
      Registrable items ∧ ∃ cards, ReadAs items cards ∧ FirstTreeFault cards error

theorem called_iff {number : Nat} {j : Json} {name : String} :
    Called number j name ↔ name = reportedId number j := by
  unfold Called reportedId
  cases h : (j.get? "id").bind Json.asText? with
  | none =>
    have hno : ∀ id, j.get? "id" ≠ some (.str id) := by
      intro id hid
      rw [hid] at h
      cases h
    simp [hno]
  | some id =>
    obtain ⟨v, hv, htext⟩ := Option.bind_eq_some_iff.mp h
    cases v <;> cases htext
    simp [hv, eq_comm]

theorem ReadAs.exists_split {before after : List Json} {j : Json} {cards : List Card}
    (h : ReadAs (before ++ j :: after) cards) :
    ∃ xs card ys, cards = xs ++ card :: ys ∧ ReadAs before xs ∧ Card.ofJson j = .ok card := by
  unfold ReadAs at h
  rw [List.map_append, List.map_cons, eq_comm, List.map_eq_append_iff] at h
  obtain ⟨xs, rest, rfl, hxs, hrest⟩ := h
  obtain ⟨card, ys, rfl, hcard, -⟩ := List.map_eq_cons_iff.mp hrest
  exact ⟨xs, card, ys, rfl, hxs.symm, hcard.symm⟩

theorem ReadAs.mem {items : List Json} {cards : List Card} (h : ReadAs items cards) {k : Json}
    {card : Card} (hk : k ∈ items) (hcard : Card.ofJson k = .ok card) : card ∈ cards := by
  have hmem : Except.ok card ∈ cards.map (Except.ok (ε := ReadError)) := by
    rw [← h, ← hcard]
    exact List.mem_map_of_mem hk
  simpa using hmem

theorem ReadAs.unique {items : List Json} {cards cards' : List Card} (h : ReadAs items cards)
    (h' : ReadAs items cards') : cards = cards' := by
  have heq : cards.map (Except.ok (ε := ReadError)) = cards'.map Except.ok := h.symm.trans h'
  exact List.map_injective_iff.mpr (fun _ _ => Except.ok.inj) heq

/-- Nothing is wrong with items that are read as cards with different ids. -/
theorem ReadAs.registrable {items : List Json} {cards : List Card} (h : ReadAs items cards)
    (hnodup : (cards.map Card.id).Nodup) : Registrable items := by
  rintro before j after error rfl hfault
  obtain ⟨xs, card, ys, rfl, hxs, hj⟩ := h.exists_split
  cases hfault with
  | unreadable hj' _ => cases hj.symm.trans hj'
  | repeated hj' hk hearlier hid =>
    obtain rfl := Except.ok.inj (hj.symm.trans hj')
    have hmem := List.mem_map_of_mem (f := Card.id) (hxs.mem hk hearlier)
    rw [List.map_append, List.nodup_append] at hnodup
    exact hnodup.2.2 _ hmem _ List.mem_cons_self hid

/-- What is wrong with an item is determined by it and the items before. -/
theorem ItemFault.unique {before : List Json} {j : Json} {error error' : CatalogError}
    (h : ItemFault before j error) (h' : ItemFault before j error') : error = error' := by
  cases h with
  | unreadable hj hname =>
    cases h' with
    | unreadable hj' hname' =>
      rw [called_iff.mp hname, called_iff.mp hname', Except.error.inj (hj.symm.trans hj')]
    | repeated hj' _ _ _ => cases hj.symm.trans hj'
  | repeated hj _ _ _ =>
    cases h' with
    | unreadable hj' _ => cases hj.symm.trans hj'
    | repeated hj' _ _ _ => rw [Except.ok.inj (hj.symm.trans hj')]

theorem FirstItemFault.not_registrable {items : List Json} {error : CatalogError}
    (h : FirstItemFault items error) : ¬Registrable items := by
  obtain ⟨before, j, after, rfl, -, hfault⟩ := h
  exact fun hitems => hitems before j after error rfl hfault

/-- Only one error is that of the first item at fault. -/
theorem FirstItemFault.unique {items : List Json} {error error' : CatalogError}
    (h : FirstItemFault items error) (h' : FirstItemFault items error') : error = error' := by
  obtain ⟨before, j, after, rfl, hbefore, hfault⟩ := h
  obtain ⟨before', j', after', heq, hbefore', hfault'⟩ := h'
  rcases List.append_eq_append_iff.mp heq with ⟨mid, rfl, hmid⟩ | ⟨mid, rfl, hmid⟩
  · cases mid with
    | nil =>
      obtain ⟨rfl, -⟩ := List.cons.inj hmid
      rw [List.append_nil] at hfault'
      exact hfault.unique hfault'
    | cons k mid =>
      obtain ⟨rfl, -⟩ := List.cons.inj hmid
      exact absurd hfault (hbefore' before _ mid _ rfl)
  · cases mid with
    | nil =>
      obtain ⟨rfl, -⟩ := List.cons.inj hmid
      rw [List.append_nil] at hfault
      exact hfault.unique hfault'
    | cons k mid =>
      obtain ⟨rfl, -⟩ := List.cons.inj hmid
      exact absurd hfault' (hbefore before' _ mid _ rfl)

/-! ## The first round -/

/-- The items up to here have been read and registered: the catalog has their cards and an index
that fits them. -/
structure Loading (done : List Json) (c : Catalog) : Prop where
  readAs : ReadAs done c.cards
  consistent : c.Consistent

theorem loading_empty : Loading [] empty := ⟨rfl, consistent_empty⟩

section

variable {done : List Json} {c : Catalog}

theorem Loading.registrable (h : Loading done c) : Registrable done :=
  h.readAs.registrable h.consistent.ids_nodup

/-- The id of a card in the catalog is that of an item which has been registered. -/
theorem Loading.exists_of_contains (h : Loading done c) {id : String}
    (hc : c.contains id = true) : ∃ k ∈ done, ∃ card, Card.ofJson k = .ok card ∧ card.id = id := by
  obtain ⟨card, hcard, hid⟩ := List.mem_map.mp (h.consistent.contains_iff.mp hc)
  have hmem : Except.ok card ∈ done.map Card.ofJson := by
    rw [h.readAs]
    exact List.mem_map_of_mem hcard
  obtain ⟨k, hk, hread⟩ := List.mem_map.mp hmem
  exact ⟨k, hk, card, hread, hid⟩

/-- Reading and registering one more item. -/
theorem Loading.step (h : Loading done c) (j : Json) :
    (∃ error, ItemFault done j error ∧ (readCard done.length j >>= c.register) = .error error) ∨
      ∃ d, Loading (done ++ [j]) d ∧ (readCard done.length j >>= c.register) = .ok d := by
  cases hj : Card.ofJson j with
  | error error =>
    refine Or.inl ⟨_, .unreadable hj (called_iff.mpr rfl), ?_⟩
    simp [readCard, hj, bind, Except.bind]
  | ok card =>
    have hread : (readCard done.length j >>= c.register) = c.register card := by
      simp [readCard, hj, bind, Except.bind]
    rw [hread, register]
    cases hc : c.contains card.id with
    | true =>
      obtain ⟨k, hk, earlier, hearlier, hid⟩ := h.exists_of_contains hc
      exact Or.inl ⟨_, .repeated hj hk hearlier hid, by rw [offer_of_contains hc]; rfl⟩
    | false =>
      have hconsistent := h.consistent.offer card
      rw [offer_of_not_contains hc] at hconsistent ⊢
      refine Or.inr ⟨_, ⟨?_, hconsistent⟩, rfl⟩
      rw [ReadAs, List.map_append, List.map_append, h.readAs]
      simp [hj]

/-- The first round, once some items have been registered. -/
theorem registerAll_cases (h : Loading done c) (rest : List Json) :
    (∃ error, FirstItemFault (done ++ rest) error ∧
        registerAll done.length c rest = .error error) ∨
      ∃ d, Loading (done ++ rest) d ∧ registerAll done.length c rest = .ok d := by
  induction rest generalizing done c with
  | nil => exact Or.inr ⟨c, by rwa [List.append_nil], rfl⟩
  | cons j rest ih =>
    have hround : registerAll done.length c (j :: rest) =
        (readCard done.length j >>= c.register) >>= fun d =>
          registerAll (done.length + 1) d rest := by
      rw [registerAll, bind_assoc]
    rw [hround]
    rcases h.step j with ⟨error, hfault, herror⟩ | ⟨d, hd, hok⟩
    · exact Or.inl ⟨error, ⟨done, j, rest, rfl, h.registrable, hfault⟩, by rw [herror]; rfl⟩
    · have hrest := ih hd
      rw [List.length_append, List.length_singleton, List.append_assoc,
        List.singleton_append] at hrest
      rw [hok]
      exact hrest

end

/-! ## The second round -/

theorem firstUnsound_eq_ok_iff {cards : List Card} :
    firstUnsound cards = .ok () ↔ ∀ card ∈ cards, card.IsSound := by
  induction cards with
  | nil => simp [firstUnsound]
  | cons card rest ih =>
    rw [firstUnsound, List.forall_mem_cons, Card.IsSound]
    cases ht : card.tree with
    | none => simp [ih]
    | some e =>
      by_cases hs : e.isSound = true
      · simp [hs, ih]
      · simp [hs]

theorem firstUnsound_of_split {before after : List Card} {card : Card} {e : Effect}
    (hbefore : ∀ c ∈ before, c.IsSound) (ht : card.tree = some e) (hs : e.isSound = false) :
    firstUnsound (before ++ card :: after) = .error (.unsound card.id e.violations) := by
  induction before with
  | nil => simp [firstUnsound, ht, hs]
  | cons c rest ih =>
    obtain ⟨hc, hrest⟩ := List.forall_mem_cons.mp hbefore
    rw [List.cons_append, firstUnsound]
    cases hct : c.tree with
    | none => exact ih hrest
    | some e' => simp [hc e' hct, ih hrest]

theorem firstTreeFault_of_firstUnsound {cards : List Card} {error : CatalogError}
    (h : firstUnsound cards = .error error) : FirstTreeFault cards error := by
  induction cards with
  | nil => cases h
  | cons card rest ih =>
    rw [firstUnsound] at h
    have hlater (hsound : card.IsSound) (hrest : firstUnsound rest = .error error) :
        FirstTreeFault (card :: rest) error := by
      obtain ⟨before, c, after, e, rfl, hbefore, hc⟩ := ih hrest
      exact ⟨card :: before, c, after, e, rfl, List.forall_mem_cons.mpr ⟨hsound, hbefore⟩, hc⟩
    cases ht : card.tree with
    | none =>
      rw [ht] at h
      exact hlater (by simp [Card.IsSound, ht]) h
    | some e =>
      rw [ht] at h
      cases hs : e.isSound with
      | true =>
        simp only [hs, if_true] at h
        exact hlater (by simp [Card.IsSound, ht, hs]) h
      | false =>
        simp only [hs, Bool.false_eq_true, if_false, Except.error.injEq] at h
        exact ⟨[], card, rest, e, rfl, by simp, ht, hs, h.symm⟩

theorem firstUnsound_eq_error_iff {cards : List Card} {error : CatalogError} :
    firstUnsound cards = .error error ↔ FirstTreeFault cards error := by
  constructor
  · exact firstTreeFault_of_firstUnsound
  · rintro ⟨before, card, after, e, rfl, hbefore, ht, hs, rfl⟩
    exact firstUnsound_of_split hbefore ht hs

/-! ## Both rounds -/

theorem ofItems_cases (items : List Json) :
    (∃ error, FirstItemFault items error ∧ ofItems items = .error error) ∨
      ∃ d, Loading items d ∧ ofItems items = (firstUnsound d.cards).map fun _ => d := by
  rcases registerAll_cases loading_empty items with ⟨error, hfault, herror⟩ | ⟨d, hd, hok⟩
  · refine Or.inl ⟨error, hfault, ?_⟩
    rw [ofItems, show registerAll 0 empty items = .error error from herror]
    rfl
  · refine Or.inr ⟨d, hd, ?_⟩
    rw [ofItems, show registerAll 0 empty items = .ok d from hok]
    show (firstUnsound d.cards >>= fun _ => pure d) = _
    cases firstUnsound d.cards <;> rfl

theorem loadedFrom_of_itemFault {items : List Json} {error : CatalogError}
    (h : FirstItemFault items error) : LoadedFrom items (.error error) where
  ok_iff := by
    constructor
    · rintro ⟨c, hc⟩
      cases hc
    · rintro ⟨cards, hcards, hnodup, -⟩
      exact absurd (hcards.registrable hnodup) h.not_registrable
  cards_of_ok c hc := by cases hc
  error_iff error' := by
    constructor
    · rintro ⟨⟩
      exact Or.inl h
    · rintro (h' | ⟨hitems, -⟩)
      · rw [h.unique h']
      · exact absurd hitems h.not_registrable

theorem loadedFrom_of_loading {items : List Json} {d : Catalog} (h : Loading items d) :
    LoadedFrom items ((firstUnsound d.cards).map fun _ => d) where
  ok_iff := by
    have hok : (∃ c, (firstUnsound d.cards).map (fun _ => d) = .ok c) ↔
        firstUnsound d.cards = .ok () := by
      cases firstUnsound d.cards <;> simp [Except.map]
    rw [hok, firstUnsound_eq_ok_iff]
    constructor
    · exact fun hsound => ⟨d.cards, h.readAs, h.consistent.ids_nodup, hsound⟩
    · rintro ⟨cards, hcards, -, hsound⟩
      rwa [h.readAs.unique hcards]
  cards_of_ok c hc := by
    cases hfirst : firstUnsound d.cards with
    | error error =>
      rw [hfirst] at hc
      cases hc
    | ok u =>
      rw [hfirst] at hc
      cases hc
      exact h.readAs
  error_iff error := by
    have herror : (firstUnsound d.cards).map (fun _ => d) = .error error ↔
        firstUnsound d.cards = .error error := by
      cases firstUnsound d.cards <;> simp [Except.map]
    rw [herror, firstUnsound_eq_error_iff]
    constructor
    · exact fun hfault => Or.inr ⟨h.registrable, d.cards, h.readAs, hfault⟩
    · rintro (hfault | ⟨-, cards, hcards, hfault⟩)
      · exact absurd h.registrable hfault.not_registrable
      · rwa [h.readAs.unique hcards]

/-- Items are loaded exactly if all of them are read as cards, no two of these have the same id and
all their trees are sound; and then the catalog has these cards in order. Otherwise the first item
that cannot be read or that repeats an id is reported, and if there is none the first card with a
tree that is not sound. A text that has an array in it is loaded from the items of the array. -/
theorem loadedFrom_ofItems :
    (∀ items, LoadedFrom items (ofItems items)) ∧
      ∀ text items, Json.Outline.readAll (.list .any) text = .ok (.arr items) →
        LoadedFrom (items.map Json.sorted) (ofText text) := by
  have hitems : ∀ items, LoadedFrom items (ofItems items) := by
    intro items
    rcases ofItems_cases items with ⟨error, hfault, herror⟩ | ⟨d, hd, hok⟩
    · rw [herror]
      exact loadedFrom_of_itemFault hfault
    · rw [hok]
      exact loadedFrom_of_loading hd
  refine ⟨hitems, fun text items htext => ?_⟩
  have hload : ofText text = ofItems (items.map Json.sorted) := by
    rw [ofText, htext]
    rfl
  rw [hload]
  exact hitems _

/-- The second item is no card, so that the tree of the first, which has no members, is not looked
at. -/
example : ofItems [.obj [("effectTree", .obj [("effects", .arr [])]), ("id", .str "OC-01"),
      ("type", .str "ocaso")], .null] =
    .error (.invalidCard "#1" none (.invalidType .null (.record "Card"))) := by rfl

end Catalog

end CityCards
