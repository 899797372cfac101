import CityCards.Proofs.Catalog.Loading
import CityCards.Proofs.Effect.RoundTrip
import CityCards.Proofs.Json.Normal

/-!
# Saving a catalog and loading it again

Cards can be spelt in many ways: members may go by another name, records may be given by place, and
what is missing may be left out or written as `null`. A catalog is saved in one spelling. What was
loaded does not depend on how it was spelt, so what was saved is loaded as the same catalog.

Main definitions:
* `Catalog.items`: the cards of a catalog as JSON, in order.

Results:
* `Card.ofJson_toJson`: a card is read back.
* `Effect.isNormal_toJson`, `Card.isNormal_toJson`: trees and cards are written in normal form.
* `Catalog.ofItems_eq_of_readAs`: what is loaded depends on the cards that are read, and on nothing
  else.
* `Catalog.ofItems_items`: a catalog that was loaded can be saved and loaded again.
-/

namespace CityCards

/-! ## Cards are read back -/

theorem Card.ofJson_toJson (c : Card) : ofJson c.toJson = .ok c := by
  obtain ⟨id, type, label, title, flavour, printed, tree, variant⟩ := c
  have htree (e : Effect) : Json.readOption Effect.ofJson e.toJson = .ok (some e) :=
    Effect.readOption_toJson e.ofJson_toJson
  rw [toJson, ofJson_obj]
  cases tree <;> cases variant <;>
    simp [ofRecord, optionalMember, treeNames, Record.field, Record.occurrences, Record.closed,
      Ranked.ofExcept, Vocabulary.read_write, Json.readString, Json.readOption_str, htree] <;> rfl

/-! ## Cards are written in normal form -/

theorem forall_mem_optionalMember {α : Type} {name : String} {write : α → Json} {o : Option α}
    {P : Json → Prop} (h : ∀ a, o = some a → P (write a)) :
    ∀ m ∈ optionalMember name write o, P m.2 := by
  cases o with
  | none => simp [optionalMember]
  | some a => simpa [optionalMember] using h a rfl

theorem Vocabulary.isNormal_write {κ : Type} [Vocabulary κ] (k : κ) : (write k).IsNormal :=
  Json.isNormal_str _

theorem isNormal_countJson (n : UInt32) : (countJson n).IsNormal := Json.isNormal_int _

theorem Operand.isNormal_toJson (a : Operand) : a.toJson.IsNormal := by
  cases a with
  | number n => exact Json.isNormal_int _
  | text s => exact Json.isNormal_str s

theorem Condition.map_fst_members (c : Condition) : (c.members.map Prod.fst).Sublist
    ["compareWith", "description", "operator", "type", "value"] := by
  simp only [members, List.map_append]
  exact ((((map_fst_optionalMember "compareWith" _ _).append (.refl ["description"])).append
    (map_fst_optionalMember "operator" _ _)).append (.refl ["type"])).append
    (map_fst_optionalMember "value" _ _)

theorem Condition.isNormal_toJson (c : Condition) : c.toJson.IsNormal := by
  have hnames : ["compareWith", "description", "operator", "type", "value"].Pairwise (· < ·) := by
    decide
  refine Json.isNormal_obj (hnames.sublist c.map_fst_members) ?_
  simp only [members, List.forall_mem_append, List.forall_mem_singleton]
  refine ⟨⟨⟨⟨?_, ?_⟩, ?_⟩, ?_⟩, ?_⟩
  · exact forall_mem_optionalMember fun s _ => Json.isNormal_str s
  · exact Json.isNormal_str _
  · exact forall_mem_optionalMember fun k _ => Vocabulary.isNormal_write k
  · exact Vocabulary.isNormal_write _
  · exact forall_mem_optionalMember fun a _ => a.isNormal_toJson

theorem Shape.memberNames_pairwise (s : Shape) : s.memberNames.Pairwise (· < ·) := by
  cases s <;> decide

theorem Marks.isNormal_discardMember (m : Marks) : ∀ x ∈ m.discardMember, x.2.IsNormal := by
  unfold discardMember
  split <;> simp [Json.isNormal_bool]

theorem Marks.isNormal_removeMember (m : Marks) : ∀ x ∈ m.removeMember, x.2.IsNormal := by
  unfold removeMember
  split <;> simp [Json.isNormal_bool]

theorem isNormal_branchJson {b : Condition × Effect} (h : b.2.toJson.IsNormal) :
    (branchJson b).IsNormal := by
  have hnames : ["condition", "effect"].Pairwise (· < ·) := by decide
  refine Json.isNormal_obj hnames ?_
  simpa using ⟨b.1.isNormal_toJson, h⟩

namespace Effect

/-- A tree is written in normal form if the values of all members of its root are. -/
theorem isNormal_toJson_of_members {e : Effect} (h : ∀ m ∈ e.members, m.2.IsNormal) :
    e.toJson.IsNormal := by
  rw [toJson_eq]
  exact Json.isNormal_obj (e.shape.memberNames_pairwise.sublist e.map_fst_members) h

mutual

/-- A tree is written in normal form. -/
theorem isNormal_toJson (e : Effect) : e.toJson.IsNormal := by
  apply isNormal_toJson_of_members
  cases e with
  | basic b =>
    simp only [members, List.forall_mem_append, List.forall_mem_singleton]
    exact ⟨⟨⟨⟨forall_mem_optionalMember fun s _ => Json.isNormal_str s, Json.isNormal_str _⟩,
      b.marks.isNormal_discardMember⟩, b.marks.isNormal_removeMember⟩, Vocabulary.isNormal_write _⟩
  | conditional c t f m =>
    simp only [members, List.forall_mem_append, List.forall_mem_singleton]
    exact ⟨⟨⟨⟨c.isNormal_toJson, m.isNormal_discardMember⟩,
      forall_mem_optionalMember (isNormal_toJson_option f)⟩, isNormal_toJson t⟩,
      m.isNormal_removeMember⟩
  | multi bs d m =>
    simp only [members, List.forall_mem_append, List.forall_mem_singleton]
    exact ⟨⟨⟨Json.isNormal_arr (List.forall_mem_map.mpr (isNormal_toJson_branches bs)),
      forall_mem_optionalMember (isNormal_toJson_option d)⟩, m.isNormal_discardMember⟩,
      m.isNormal_removeMember⟩
  | choice d lo hi os m =>
    simp only [members, List.forall_mem_append, List.forall_mem_cons, List.not_mem_nil,
      IsEmpty.forall_iff, implies_true, and_true]
    exact ⟨⟨⟨Json.isNormal_str d, m.isNormal_discardMember⟩, isNormal_countJson hi,
      isNormal_countJson lo, Json.isNormal_arr (List.forall_mem_map.mpr (isNormal_toJson_list os))⟩,
      m.isNormal_removeMember⟩
  | forEach t b d m =>
    simp only [members, List.forall_mem_append, List.forall_mem_singleton]
    exact ⟨⟨⟨⟨Json.isNormal_str d, m.isNormal_discardMember⟩, isNormal_toJson b⟩,
      m.isNormal_removeMember⟩, Json.isNormal_str t⟩
  | composite es d m =>
    simp only [members, List.forall_mem_append, List.forall_mem_singleton]
    exact ⟨⟨⟨forall_mem_optionalMember fun s _ => Json.isNormal_str s, m.isNormal_discardMember⟩,
      Json.isNormal_arr (List.forall_mem_map.mpr (isNormal_toJson_list es))⟩,
      m.isNormal_removeMember⟩
termination_by structural e

theorem isNormal_toJson_option (o : Option Effect) : ∀ e, o = some e → e.toJson.IsNormal := by
  cases o with
  | none => simp
  | some e =>
    intro e' he
    cases he
    exact isNormal_toJson e
termination_by structural o

theorem isNormal_toJson_list (es : List Effect) : ∀ e ∈ es, e.toJson.IsNormal := by
  cases es with
  | nil => simp
  | cons e rest => exact List.forall_mem_cons.mpr ⟨isNormal_toJson e, isNormal_toJson_list rest⟩
termination_by structural es

theorem isNormal_toJson_branches (bs : List (Condition × Effect)) :
    ∀ b ∈ bs, (branchJson b).IsNormal := by
  cases bs with
  | nil => simp
  | cons b rest =>
    obtain ⟨c, e⟩ := b
    exact List.forall_mem_cons.mpr
      ⟨isNormal_branchJson (isNormal_toJson e), isNormal_toJson_branches rest⟩
termination_by structural bs

end

end Effect

theorem Card.isNormal_toJson (c : Card) : c.toJson.IsNormal := by
  have hnames : ["efecto", "effectTree", "etiqueta", "id", "textoAmbientacion", "titulo", "type",
      "variante"].Pairwise (· < ·) := by decide
  rw [toJson]
  refine Json.isNormal_obj (hnames.sublist ?_) ?_
  · simp only [List.map_append]
    exact (((List.Sublist.refl ["efecto"]).append (map_fst_optionalMember "effectTree" _ _)).append
      (.refl ["etiqueta", "id", "textoAmbientacion", "titulo", "type"])).append
      (map_fst_optionalMember "variante" _ _)
  · simp only [List.forall_mem_append, List.forall_mem_cons, List.not_mem_nil, IsEmpty.forall_iff,
      implies_true, and_true]
    exact ⟨⟨⟨Json.isNormal_str _, forall_mem_optionalMember fun e _ => e.isNormal_toJson⟩,
      Json.isNormal_str _, Json.isNormal_str _, Json.isNormal_str _, Json.isNormal_str _,
      Vocabulary.isNormal_write _⟩, forall_mem_optionalMember fun s _ => Json.isNormal_str s⟩

/-! ## What is loaded -/

namespace Catalog

/-- Registering what has been read is registering the cards. -/
theorem registerAll_of_readAs {items : List Json} {cards : List Card} (h : ReadAs items cards)
    (number : Nat) (c : Catalog) : registerAll number c items = cards.foldlM register c := by
  induction cards generalizing items number c with
  | nil =>
    obtain rfl : items = [] := List.map_eq_nil_iff.mp h
    rfl
  | cons card rest ih =>
    obtain ⟨j, js, rfl, hj, hjs⟩ := List.map_eq_cons_iff.mp h
    have hread : readCard number j = .ok card := by rw [readCard, hj]
    rw [registerAll, hread, List.foldlM_cons]
    show (c.register card >>= fun d => registerAll (number + 1) d js) = _
    congr 1
    funext d
    exact ih hjs (number + 1) d

/-- What is loaded depends on the cards that the items are read as, not on how they are spelt. -/
theorem ofItems_eq_of_readAs {items items' : List Json} {cards : List Card}
    (h : ReadAs items cards) (h' : ReadAs items' cards) : ofItems items = ofItems items' := by
  rw [ofItems, ofItems, registerAll_of_readAs h, registerAll_of_readAs h']

/-- A catalog that was loaded has the cards that the items are read as. -/
theorem readAs_cards {items : List Json} {c : Catalog} (h : ofItems items = .ok c) :
    ReadAs items c.cards := by
  rcases ofItems_cases items with ⟨error, -, herror⟩ | ⟨d, hd, hok⟩
  · rw [herror] at h
    cases h
  · rw [hok] at h
    exact (loadedFrom_of_loading hd).cards_of_ok c h

/-! ## Saving -/

/-- The cards of a catalog as they are saved, in order. -/
def items (c : Catalog) : List Json := c.cards.map Card.toJson

theorem readAs_items (c : Catalog) : ReadAs c.items c.cards := by
  rw [ReadAs, items, List.map_map]
  exact List.map_congr_left fun card _ => card.ofJson_toJson

theorem map_sorted_items (c : Catalog) : c.items.map Json.sorted = c.items := by
  rw [items, List.map_map]
  exact List.map_congr_left fun card _ => card.isNormal_toJson

/-- A catalog that was loaded is saved and loaded again. -/
theorem ofItems_items {items : List Json} {c : Catalog} (h : ofItems items = .ok c) :
    ofItems c.items = .ok c := by
  rw [← h]
  exact ofItems_eq_of_readAs c.readAs_items (readAs_cards h)

/-! ## Texts -/

/-- The text has these values for the items of an array, the members of objects in any order. -/
def Spells (text : String) (items : List Json) : Prop :=
  ∃ js, Json.Outline.readAll (.list .any) text = .ok (.arr js) ∧
    js.map Json.sorted = items.map Json.sorted

theorem Spells.ofText_eq {text : String} {items : List Json} (h : Spells text items) :
    ofText text = ofItems (items.map Json.sorted) := by
  obtain ⟨js, hread, hsorted⟩ := h
  rw [ofText, hread, ← hsorted]
  rfl

theorem exists_ofItems_of_ofText {text : String} {c : Catalog} (h : ofText text = .ok c) :
    ∃ items, ofItems items = .ok c := by
  unfold ofText at h
  split at h
  · exact ⟨_, h⟩
  · cases h

/-- However the cards of a catalog that was loaded had been spelt: from the cards as they are saved
the same catalog is loaded, with the same cards in the same order, and so it is from every text that
has the saved cards in it. -/
theorem reload_eq {c : Catalog}
    (h : (∃ items, ofItems items = .ok c) ∨ ∃ text, ofText text = .ok c) :
    ofItems c.items = .ok c ∧ ∀ saved, Spells saved c.items → ofText saved = .ok c := by
  have hloaded : ∃ items, ofItems items = .ok c := by
    rcases h with hitems | ⟨text, htext⟩
    · exact hitems
    · exact exists_ofItems_of_ofText htext
  obtain ⟨items, hitems⟩ := hloaded
  have hagain := ofItems_items hitems
  refine ⟨hagain, fun saved hsaved => ?_⟩
  rw [hsaved.ofText_eq, map_sorted_items, hagain]

/-- Two cards, one with an old name for its tree, a member that means nothing, a record given by
place and a name given as an object, the other given by place as a whole. -/
def variedItems : List Json := [
  .obj [("efectoEstructurado", .arr [.str "add_card_to_deck", .str "DS-01", .str "Protesta"]),
    ("id", .str "OC-01"), ("nota", .null), ("type", .obj [("ocaso", .null)])],
  .arr [.str "DS-01", .str "disputa_social"]]

/-- The catalog of these two cards. -/
def variedCatalog : Catalog where
  cards := [{ Card.blank "OC-01" .sunset "" with tree := some (.addCard "DS-01" "Protesta") },
    .blank "DS-01" .socialDispute ""]
  index := [("DS-01", 1), ("OC-01", 0)]

/-- A text of the saved cards, with the members in the order of the fields. -/
def variedText : String := "[
  \x7b\"id\":\"OC-01\",\"type\":\"ocaso\",\"etiqueta\":\"\",\"titulo\":\"\",
  \"textoAmbientacion\":\"\",\"efecto\":\"\",\"effectTree\":\x7b
  \"type\":\"add_card_to_deck\",\"cardId\":\"DS-01\",\"description\":\"Protesta\"\x7d\x7d,
  \x7b\"id\":\"DS-01\",\"type\":\"disputa_social\",\"etiqueta\":\"\",\"titulo\":\"\",
  \"textoAmbientacion\":\"\",\"efecto\":\"\"\x7d]"

set_option maxRecDepth 20000 in
/-- The two cards are saved in another spelling than they were loaded from, and are loaded again
from that one. -/
theorem reload_varied :
    ofItems variedItems = .ok variedCatalog ∧ ofItems variedCatalog.items = .ok variedCatalog ∧
      ofText variedText = .ok variedCatalog := by
  have hload : ofItems variedItems = .ok variedCatalog := by rfl
  -- the characters first: taking the literal apart once is far cheaper than at every token
  have hchars : variedText = String.ofList _ := rfl
  have hspells : Spells variedText variedCatalog.items := by
    refine ⟨_, by rw [Json.Outline.readAll, Json.Token.scan, hchars, String.toList_ofList]; cbv, ?_⟩
    rfl
  obtain ⟨hitems, htexts⟩ := reload_eq (Or.inl ⟨variedItems, hload⟩)
  exact ⟨hload, hitems, htexts variedText hspells⟩

end Catalog

end CityCards
