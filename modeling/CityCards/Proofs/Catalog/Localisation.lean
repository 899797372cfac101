import CityCards.Catalog.Catalog
import CityCards.Proofs.Effect.Places

/-!
# The node at fault is found

When one node of a tree is replaced by something that cannot be read, none of the nodes above it can
be read any more, in any shape, while all other nodes still can. Going down from the root thus leads
to the place of the fault, and a card with the tree is reported with the path to it.

Results:
* `mem_childNodes_iff`: the child nodes of a value stand at the paths of segments.
* `isUnreadable_modifyAt`: a node with an unreadable child is unreadable.
* `blame_modifyAt`: from there the way down begins with the segment of the child.
* `blame_replaceAt`: the way down from the root leads to the place of the fault.
* `Catalog.readCard_faulty_node`: the card is reported with the path to the node at fault.
-/

namespace CityCards

open Json (Path Step)

/-! ## Where child nodes stand -/

theorem mem_memberNode_iff {j v : Json} {name : String} {p : Path} :
    (p, v) ∈ memberNode j name ↔ p = [.member name] ∧ j.at? [.member name] = some v := by
  cases hw : j.get? name <;> simp [memberNode, Json.at?_member, hw, eq_comm, Json.at?_nil]

theorem getElem?_memberItems {j : Json} {name : String} {i : Nat} :
    (memberItems j name)[i]? = j.at? [.member name, .item i] := by
  rw [memberItems, Json.at?_member]
  cases hw : j.get? name with
  | none => rfl
  | some w =>
    cases w with
    | arr items => simp [Json.asItems?, Json.at?_arr_item, Json.at?_nil]
    | _ => rfl

theorem mem_itemNodes_iff {j v : Json} {name : String} {p : Path} :
    (p, v) ∈ itemNodes j name ↔
      ∃ i, p = [.member name, .item i] ∧ j.at? [.member name, .item i] = some v := by
  simp only [itemNodes, List.mem_mapIdx, ← getElem?_memberItems, List.getElem?_eq_some_iff]
  constructor
  · rintro ⟨i, hi, heq⟩
    cases heq
    exact ⟨i, rfl, hi, rfl⟩
  · rintro ⟨i, rfl, hi, rfl⟩
    exact ⟨i, hi, rfl⟩

theorem mem_branchNodes_iff {j v : Json} {p : Path} :
    (p, v) ∈ branchNodes j ↔
      ∃ i, p = (Segment.branch i).path ∧ j.at? (Segment.branch i).path = some v := by
  have hpath (i : Nat) : (Segment.branch i).path =
      [.member "branches", .item i] ++ [.member "effect"] := rfl
  simp only [branchNodes, List.mem_flatten, List.mem_mapIdx, hpath, Json.at?_append,
    ← getElem?_memberItems]
  constructor
  · rintro ⟨_, ⟨i, hi, rfl⟩, hl⟩
    obtain ⟨⟨q, w⟩, hq, heq⟩ := List.mem_map.mp hl
    obtain ⟨rfl, hw⟩ := mem_memberNode_iff.mp hq
    cases heq
    exact ⟨i, rfl, by rw [List.getElem?_eq_getElem hi]; exact hw⟩
  · rintro ⟨i, rfl, hv⟩
    obtain ⟨b, hb, hbv⟩ := Option.bind_eq_some_iff.mp hv
    obtain ⟨hi, rfl⟩ := List.getElem?_eq_some_iff.mp hb
    exact ⟨_, ⟨i, hi, rfl⟩, List.mem_map.mpr ⟨_, mem_memberNode_iff.mpr ⟨rfl, hbv⟩, rfl⟩⟩

/-- The child nodes of a value are what stands at the paths of segments. -/
theorem mem_childNodes_iff {j v : Json} {p : Path} :
    (p, v) ∈ childNodes j ↔ ∃ s : Segment, p = s.path ∧ j.at? s.path = some v := by
  simp only [childNodes, List.mem_append, List.mem_flatMap, mem_memberNode_iff, mem_itemNodes_iff,
    mem_branchNodes_iff]
  constructor
  · rintro ((⟨name, hname, rfl, hv⟩ | ⟨i, rfl, hv⟩) | ⟨name, hname, i, rfl, hv⟩)
    · simp only [List.mem_cons, List.not_mem_nil, or_false] at hname
      rcases hname with rfl | rfl | rfl | rfl
      · exact ⟨.ifTrue, rfl, hv⟩
      · exact ⟨.ifFalse, rfl, hv⟩
      · exact ⟨.default, rfl, hv⟩
      · exact ⟨.body, rfl, hv⟩
    · exact ⟨.branch i, rfl, hv⟩
    · simp only [List.mem_cons, List.not_mem_nil, or_false] at hname
      rcases hname with rfl | rfl
      · exact ⟨.option i, rfl, hv⟩
      · exact ⟨.member i, rfl, hv⟩
  · rintro ⟨s, rfl, hv⟩
    cases s with
    | ifTrue => exact .inl (.inl ⟨"ifTrue", by simp, rfl, hv⟩)
    | ifFalse => exact .inl (.inl ⟨"ifFalse", by simp, rfl, hv⟩)
    | branch i => exact .inl (.inr ⟨i, rfl, hv⟩)
    | default => exact .inl (.inl ⟨"default", by simp, rfl, hv⟩)
    | option i => exact .inr ⟨"options", by simp, i, rfl, hv⟩
    | body => exact .inl (.inl ⟨"effect", by simp, rfl, hv⟩)
    | member i => exact .inr ⟨"effects", by simp, i, rfl, hv⟩

/-! ## Nodes with one child replaced -/

theorem isUnreadable_eq_false_iff {j : Json} :
    isUnreadable j = false ↔ ∃ e, Effect.ofJson j = .ok e := by
  unfold isUnreadable
  cases Effect.ofJson j <;> simp [Except.isOk, Except.toBool]

theorem isUnreadable_toJson (e : Effect) : isUnreadable e.toJson = false :=
  isUnreadable_eq_false_iff.mpr ⟨e, e.ofJson_toJson⟩

theorem Segment.exists_path_eq (s : Segment) : ∃ name rest, s.path = Step.member name :: rest := by
  cases s <;> exact ⟨_, _, rfl⟩

section

variable {e c : Effect} {s t : Segment} {f : Json → Json}

/-- Replacing below a node does not change which members the node has. -/
theorem exists_modifyAt_toJson (e : Effect) (s : Segment) (f : Json → Json) :
    ∃ ms, Json.modifyAt f s.path e.toJson = .obj ms ∧
      ms.map Prod.fst = e.members.map Prod.fst := by
  obtain ⟨name, rest, hs⟩ := s.exists_path_eq
  refine ⟨Json.modifyMember name (Json.modifyAt f rest) e.members, ?_,
    Json.map_fst_modifyMember _ _ _⟩
  rw [hs, Effect.toJson_eq]
  rfl

theorem at?_modifyAt_self (h : e.child? s = some c) :
    (Json.modifyAt f s.path e.toJson).at? s.path = some (f c.toJson) := by
  rw [Json.at?_modifyAt, Effect.at?_toJson_segment, h]
  rfl

theorem at?_modifyAt_sibling (hst : s ≠ t) :
    (Json.modifyAt f s.path e.toJson).at? t.path = (e.child? t).map Effect.toJson := by
  rw [Json.at?_modifyAt_of_apart f (Segment.apart_path hst), Effect.at?_toJson_segment]

/-- A node of which a child cannot be read cannot be read as its own shape, nor as another one,
since its members do not make up any other. -/
theorem isUnreadable_modifyAt (h : e.child? s = some c) (hnull : f c.toJson ≠ .null)
    (hbad : isUnreadable (f c.toJson) = true) :
    isUnreadable (Json.modifyAt f s.path e.toJson) = true := by
  obtain ⟨ms, hms, hnames⟩ := exists_modifyAt_toJson e s f
  have hat := at?_modifyAt_self (f := f) h
  rw [hms] at hat ⊢
  by_contra hread
  obtain ⟨e', he'⟩ := isUnreadable_eq_false_iff.mp (Bool.eq_false_iff.mpr hread)
  -- The members are still those of `e`, so whatever has been read has the shape of `e`.
  have hshape : e'.shape = e.shape :=
    Shape.eq_of_ofRecord (fun name hname => e.map_fst_members.subset (hnames ▸ hname))
      (Effect.ofRecord_shape_of_ofJson he')
  have hseg : e'.shape.HasSegment s := hshape ▸ Effect.hasSegment_of_child? h
  rcases Effect.ofJson_child he' hseg hat with heq | hok
  · exact hnull heq
  · rw [isUnreadable_eq_false_iff.mpr hok] at hbad
    cases hbad

/-! ## The way down -/

theorem find?_isUnreadable_eq_none_iff {nodes : List (Path × Json)} :
    nodes.find? (fun n => isUnreadable n.2) = none ↔ ∀ n ∈ nodes, isUnreadable n.2 = false := by
  simp only [List.find?_eq_none, Bool.not_eq_true]

theorem blame_eq_nil {j : Json} (h : ∀ n ∈ childNodes j, isUnreadable n.2 = false) :
    blame j = [] := by
  have hnone := find?_isUnreadable_eq_none_iff.mpr h
  rw [blame]
  split
  · rfl
  · rename_i heq
    rw [hnone] at heq
    cases heq

theorem blame_of_find? {j : Json} {n : Path × Json}
    (h : (childNodes j).find? (fun n => isUnreadable n.2) = some n) :
    blame j = n.1 ++ blame n.2 := by
  rw [blame]
  split
  · rename_i hnone
    rw [h] at hnone
    cases hnone
  · rename_i m hm
    rw [h] at hm
    cases hm
    rfl

/-- If only one child node cannot be read, the way down leads to it. -/
theorem blame_of_unique {j : Json} {n : Path × Json} (hmem : n ∈ childNodes j)
    (hbad : isUnreadable n.2 = true)
    (hunique : ∀ m ∈ childNodes j, isUnreadable m.2 = true → m = n) :
    blame j = n.1 ++ blame n.2 := by
  cases hfirst : (childNodes j).find? fun n => isUnreadable n.2 with
  | none => exact absurd hbad (List.find?_eq_none.mp hfirst n hmem)
  | some m =>
    have hm := List.find?_some hfirst
    obtain rfl := hunique m (List.mem_of_find?_eq_some hfirst) hm
    exact blame_of_find? hfirst

theorem blame_modifyAt (h : e.child? s = some c) (hbad : isUnreadable (f c.toJson) = true) :
    blame (Json.modifyAt f s.path e.toJson) = s.path ++ blame (f c.toJson) := by
  refine blame_of_unique (n := (s.path, f c.toJson))
    (mem_childNodes_iff.mpr ⟨s, rfl, at?_modifyAt_self h⟩) hbad ?_
  rintro ⟨p, v⟩ hv hvbad
  obtain ⟨t, rfl, hat⟩ := mem_childNodes_iff.mp hv
  by_cases hst : s = t
  · subst hst
    rw [at?_modifyAt_self h] at hat
    cases hat
    rfl
  · -- Anything else is what a child of `e` is written as, and that can be read.
    rw [at?_modifyAt_sibling hst] at hat
    obtain ⟨d, _, rfl⟩ := Option.map_eq_some_iff.mp hat
    rw [isUnreadable_toJson] at hvbad
    cases hvbad

end

/-! ## A fault anywhere in a tree -/

section

variable {e n : Effect} {p : Place} {b : Json}

/-- Something unreadable at a place makes the whole tree unreadable, and the way down leads to that
place. -/
theorem blame_replaceAt (hn : e.at? p = some n) (hnull : b ≠ .null) (hb : isUnreadable b = true)
    (hchildren : ∀ c ∈ childNodes b, isUnreadable c.2 = false) :
    e.toJson.replaceAt p.path b ≠ .null ∧ isUnreadable (e.toJson.replaceAt p.path b) = true ∧
      blame (e.toJson.replaceAt p.path b) = p.path := by
  induction p generalizing e with
  | nil => exact ⟨hnull, hb, blame_eq_nil hchildren⟩
  | cons s rest ih =>
    obtain ⟨c, hc, hat⟩ := Option.bind_eq_some_iff.mp hn
    obtain ⟨hcnull, hcbad, hcblame⟩ := ih hat
    have hsplit : e.toJson.replaceAt (Place.path (s :: rest)) b =
        Json.modifyAt (fun k => k.replaceAt (Place.path rest) b) s.path e.toJson :=
      Json.modifyAt_append _ s.path (Place.path rest) e.toJson
    rw [hsplit]
    refine ⟨?_, isUnreadable_modifyAt hc hcnull hcbad, ?_⟩
    · obtain ⟨ms, hms, _⟩ := exists_modifyAt_toJson e s fun k => k.replaceAt (Place.path rest) b
      rw [hms]
      exact Json.noConfusion
    · exact (blame_modifyAt hc hcbad).trans (congrArg (s.path ++ ·) hcblame)

end

/-! ## The card -/

theorem Card.fields_of_ofJson {ms : List (String × Json)} {c : Card}
    (h : ofJson (.obj ms) = .ok c) :
    (Record.named ms).field layout 0 ["id"] none Json.readString = .ok c.id ∧
      (Record.named ms).field layout 6 treeNames (some none) (Json.readOption Effect.ofJson) =
        .ok c.tree := by
  rw [ofJson_obj, ofRecord, Ranked.seqLeft_eq_ok_iff] at h
  simp only [Ranked.seq_eq_ok_iff, Ranked.map_eq_ok_iff] at h
  obtain ⟨⟨_, _, ⟨_, tree, ⟨_, _, ⟨_, _, ⟨_, _, ⟨_, _, ⟨_, _, ⟨id, hid, rfl⟩, _, rfl⟩, _, rfl⟩, _,
    rfl⟩, _, rfl⟩, _, rfl⟩, htree, rfl⟩, _, rfl⟩, _⟩ := h
  exact ⟨hid, htree⟩

theorem Card.exists_error_of_get? {card tree : Json} {name : String} (hname : name ∈ treeNames)
    (htree : card.get? name = some tree) (hnull : tree ≠ .null) (hbad : isUnreadable tree = true) :
    ∃ error, ofJson card = .error error := by
  cases card with
  | obj ms =>
    cases hread : ofJson (.obj ms) with
    | error error => exact ⟨error, rfl⟩
    | ok c =>
      have hfield := Record.read_of_field (fields_of_ofJson hread).2 hname htree
      rcases Json.eq_null_or_of_readOption hfield with heq | hok
      · exact absurd heq hnull
      · rw [isUnreadable_eq_false_iff.mpr hok] at hbad
        cases hbad
  | _ => cases htree

theorem Catalog.reportedId_of_get? {card : Json} {id : String} (number : Nat)
    (h : card.get? "id" = some (.str id)) : reportedId number card = id := by
  simp [reportedId, h, Json.asText?]

theorem cardBlame?_of_get? {card tree : Json} {name : String} (hname : name ∈ Card.treeNames)
    (hother : ∀ k ∈ Card.treeNames, k ≠ name → card.get? k = none)
    (htree : card.get? name = some tree) (hbad : isUnreadable tree = true) :
    cardBlame? card = some (.member name :: blame tree) := by
  simp only [Card.treeNames, List.mem_cons, List.not_mem_nil, or_false] at hname
  rcases hname with rfl | rfl
  · simp [cardBlame?, Card.treeNames, htree, hbad]
  · have hfirst := hother "effectTree" (by decide) (by decide)
    simp [cardBlame?, Card.treeNames, hfirst, htree, hbad]

/-- The path to a place in a card has for its text the name of the member that holds the tree and
the texts of all segments, put together with points. -/
theorem text_member_path (name : String) (p : Place) :
    Path.text (.member name :: p.path) = ".".intercalate (name :: p.map fun s => s.path.text) := by
  rw [Path.text]
  induction p generalizing name with
  | nil => simp [Place.path, Path.tailText]
  | cons s rest ih =>
    have hsegment : Path.tailText s.path = "." ++ s.path.text := by
      obtain ⟨member, below, hs⟩ := s.exists_path_eq
      rw [hs, Path.tailText, Path.text, String.append_assoc]
    rw [Place.path_cons, Path.tailText_append, hsegment, List.map_cons,
      String.intercalate_cons_cons, ← ih]
    simp only [String.append_assoc]

/-- What is known of a card that can be read once its tree is replaced. -/
theorem get?_of_ofJson_replaceAt {j tree : Json} {name : String} {e : Effect} {card : Card}
    (hname : name ∈ Card.treeNames) (htree : j.get? name = some tree)
    (hcard : Card.ofJson (j.replaceAt [.member name] e.toJson) = .ok card) :
    j.get? "id" = some (.str card.id) ∧ ∀ k ∈ Card.treeNames, k ≠ name → j.get? k = none := by
  cases j with
  | obj ms =>
    have hmember : Json.find? name ms = some tree := htree
    obtain ⟨hidfield, htreefield⟩ := Card.fields_of_ofJson hcard
    constructor
    · obtain ⟨v, hv, hread⟩ := Record.find?_of_field hidfield
      have hne : "id" ≠ name := by
        rintro rfl
        exact absurd hname (by decide)
      rw [Json.find?_modifyMember_of_ne _ hne] at hv
      cases v with
      | str s =>
        cases hread
        exact hv
      | _ => cases hread
    · intro k hk hne
      cases hv : Json.find? k ms with
      | none => exact hv
      | some v =>
        have hkv := (Json.find?_modifyMember_of_ne (fun _ => e.toJson) hne ms).trans hv
        have hself : Json.find? name (Json.modifyMember name (fun _ => e.toJson) ms) =
            some e.toJson := by
          rw [Json.find?_modifyMember_self, hmember]
          rfl
        exact absurd (Record.eq_of_field htreefield hk hname hkv hself) hne
  | _ => cases htree

/-- Take a tree, put at any place of it something unreadable of which all child nodes are readable,
and let a card hold this as its tree and be readable but for that. The card is reported with the
path to that place. -/
theorem Catalog.readCard_faulty_node {name : String} (hname : name ∈ Card.treeNames) {j : Json}
    {card : Card} {e n : Effect} {p : Place} {b : Json} (number : Nat)
    (hn : (p, n) ∈ e.nodes) (hnull : b ≠ .null) (hb : isUnreadable b = true)
    (hchildren : ∀ c ∈ childNodes b, isUnreadable c.2 = false)
    (htree : j.get? name = some (e.toJson.replaceAt p.path b))
    (hcard : Card.ofJson (j.replaceAt [.member name] e.toJson) = .ok card) :
    (∃ error, readCard number j =
      .error (.invalidCard card.id (some (.member name :: p.path)) error)) ∧
      Path.text (.member name :: p.path) =
        ".".intercalate (name :: p.map fun s => s.path.text) := by
  refine ⟨?_, text_member_path name p⟩
  obtain ⟨htnull, htbad, htblame⟩ :=
    blame_replaceAt (Effect.mem_nodes_iff.mp hn) hnull hb hchildren
  obtain ⟨error, herror⟩ := Card.exists_error_of_get? hname htree htnull htbad
  obtain ⟨hid, hother⟩ := get?_of_ofJson_replaceAt hname htree hcard
  refine ⟨error, ?_⟩
  rw [readCard, herror, reportedId_of_get? number hid,
    cardBlame?_of_get? hname hother htree htbad, htblame]

/-- A choice that has a question for its second option. -/
def nestedTree : Effect :=
  .oneOf "Elige" [.plain .heal "Cura",
    .conditional ⟨.hasHope, none, some (.text "paz"), none, "Hay paz"⟩ (.plain .heal "Cura") none
      .none]

/-- A node of a kind that there is not. -/
def unknownNode : Json := .obj [("description", .str "Arde"), ("type", .str "explode")]

/-- A card with the given tree. -/
def cardWith (tree : Json) : Json :=
  .obj [("effectTree", tree), ("id", .str "OC-01"), ("type", .str "ocaso")]

theorem Catalog.readCard_unknown_kind :
    (∃ error, readCard 0 (cardWith (nestedTree.toJson.replaceAt
        [.member "options", .item 1, .member "ifTrue"] unknownNode)) =
      .error (.invalidCard "OC-01"
        (some [.member "effectTree", .member "options", .item 1, .member "ifTrue"]) error)) ∧
      Path.text [.member "effectTree", .member "options", .item 1, .member "ifTrue"] =
        "effectTree.options[1].ifTrue" := by
  have hn : ([.option 1, .ifTrue], .plain .heal "Cura") ∈ nestedTree.nodes :=
    Effect.mem_nodes_iff.mpr rfl
  have hchildren : ∀ c ∈ childNodes unknownNode, isUnreadable c.2 = false := by
    have hnil : childNodes unknownNode = [] := rfl
    simp [hnil]
  have hcard (tree : Json) : Card.ofJson ((cardWith tree).replaceAt [.member "effectTree"]
      nestedTree.toJson) = .ok { Card.blank "OC-01" .sunset "" with tree := some nestedTree } := rfl
  exact readCard_faulty_node (by decide) 0 hn Json.noConfusion rfl hchildren rfl (hcard _)

end CityCards
